/-
**The control plane against the store itself.**

A result that is sent back by the server is what the server has got, and so is an error that has a
reason.  Two requests hand their errors on as the failure of the call, and the limit of a reservation
is converted to 32 bits before it is sent.

Main definitions:

* `Turn.Control.Agrees` — both ways give the same result, or errors of the same kind, and leave the
  same store;
* `Turn.Control.Portable` — the limit counts alike with 32 bits, and a request that hands on its
  errors has none.

Main results:

* `Turn.Control.fromValidationResponse_eq`, `Turn.Control.fromDoneResponse_eq` — what is translated
  there and back;
* `Turn.Control.reserve_agrees_iff` — reservations with two limits;
* `Turn.Control.agrees_iff_portable` — **both ways agree exactly on portable requests**.
-/

import Pairline.Turn.Control

set_option relaxedAutoImplicit false
set_option autoImplicit false

namespace Turn.Control

open Program Whitespace
open Sessions.Appredis (SessionRoute)

/-! ### The law -/

/-- The same result, or errors of the same class, with the same address. -/
def SameOutcome {α : Type} : Except GoError α → Except GoError α → Prop
  | .ok a, .ok b => a = b
  | .error e, .error e' => e.class = e'.class ∧ e.sessionIP = e'.sessionIP
  | _, _ => False

theorem SameOutcome.refl {α : Type} (r : Except GoError α) : SameOutcome r r := by
  cases r with
  | ok a => rfl
  | error e => exact ⟨rfl, rfl⟩

/-- The result of a request, and the store it leaves. -/
def outcome {α : Type} (p : Prog α) (fates : ℕ → Fate) (s : Store) : α × Store :=
  p.runFates Store.exec .failed fates s

variable (rt : Runtime)

/-- **Both ways give the same result, or errors of the same kind, and leave the same store.** -/
def Agrees (req : Request) (fates : ℕ → Fate) (s : Store) : Prop :=
  SameOutcome (outcome (direct rt req) fates s).1 (outcome (remote rt req) fates s).1 ∧
    (outcome (direct rt req) fates s).2 = (outcome (remote rt req) fates s).2

/-- A counter is refused, or one more than its count is above both limits or above none. -/
def SameAnswer (limit limit' : ℤ) (key : Option Key) : Prop :=
  match counterFields key with
  | .error _ => True
  | .ok fields => fields.get "count" + 1 > limit ↔ fields.get "count" + 1 > limit'

/-- **Two limits count alike**: both are positive or none is, and a reservation that takes effect
gets the same answer. -/
def SameLimit (username : String) (limit limit' : ℤ) (fates : ℕ → Fate) (s : Store) : Prop :=
  (limit ≤ 0 ↔ limit' ≤ 0) ∧ (0 < limit → ∀ identity ∈ parseUsername username,
    fates 0 = .failed ∨ SameAnswer limit limit' (s.counters (turnAllocationKey identity.1)))

/-- The commands that a ban check issues. -/
def batchCount (sessionIPs : List String) : ℕ :=
  if normalizeSessionIPs sessionIPs = [] then 0
  else ((rt.batches (normalizeSessionIPs sessionIPs)).filter (· ≠ [])).length

/-- The pending releases of a user, or of all, can be read. -/
def Readable (username : String) (s : Store) : Prop :=
  if trim username ≠ "" then
    (parseUsername (trim username)).isSome ∧
      ∀ field ∈ s.hashes (turnPendingReleaseIndexKey ++ ":" ++ rt.encode (trim username)),
        (decodePendingReleaseOperationField rt field).isOk = true
  else ∀ field ∈ s.hashes turnPendingReleaseIndexKey, (decodePendingReleaseField rt field).isOk = true

/-- **The limit counts alike with 32 bits, and a request that hands on its errors has none.** -/
def Portable (req : Request) (fates : ℕ → Fate) (s : Store) : Prop :=
  match req with
  | .reserveTURNAllocation username limit => SameLimit username limit (int32 limit) fates s
  | .checkBannedSessionIPs sessionIPs => ∀ k < batchCount rt sessionIPs, fates k = .answered
  | .pendingTURNReleases username => fates 0 = .answered ∧ Readable rt username s
  | _ => True

/-! ### There and back -/

/-- An error that has a name, and no address. -/
def Plain {α : Type} : Except GoError α → Prop
  | .ok _ => True
  | .error e => ∃ cause, e = .sentinel cause

theorem plain_fail {α : Type} (cause : Sentinel) :
    (fail cause : Prog (Except GoError α)).Ends Plain := ⟨cause, rfl⟩

theorem validationErrorFromReason_eq (err : GoError) :
    validationErrorFromReason (validationErrorReason err) =
      .sentinel (err.class.getD .validationBackend) := by
  unfold validationErrorReason
  cases err.class with
  | none => decide
  | some cause => cases cause <;> decide

theorem validationErrorReason_ne (err : GoError) : validationErrorReason err ≠ "" := by
  unfold validationErrorReason
  cases err.class with
  | none => decide
  | some cause => cases cause <;> decide

/-- **What is done or refused is translated there and back.** -/
theorem fromDoneResponse_eq {r : Except GoError Unit} (h : Plain r) :
    fromDoneResponse (doneResponse r) = r := by
  cases r with
  | ok a => rfl
  | error e =>
      obtain ⟨cause, rfl⟩ := h
      have hreason := validationErrorFromReason_eq (.sentinel cause)
      simp only [doneResponse, fromDoneResponse, ne_eq, validationErrorReason_ne, not_false_eq_true,
        and_self, if_true, hreason]
      rfl

theorem fromReserveResponse_eq {r : Except GoError Bool} (h : Plain r) :
    fromReserveResponse (reserveResponse r) = r := by
  cases r with
  | ok allowed => cases allowed <;> rfl
  | error e =>
      obtain ⟨cause, rfl⟩ := h
      have hreason := validationErrorFromReason_eq (.sentinel cause)
      simp only [reserveResponse, fromReserveResponse, if_true, validationErrorReason_ne, if_false,
        hreason]
      rfl

/-- A result with a route that was decoded, or an error that has a name. -/
def Faithful : Except GoError ValidationResult → Prop
  | .ok result => Sessions.Appredis.Valid result.route
  | .error e => ∃ cause sessionIP,
      e = validationErrorWithSessionIP (.sentinel cause) sessionIP

theorem faithful_fail (cause : Sentinel) :
    (fail cause : Prog (Except GoError ValidationResult)).Ends Faithful := ⟨cause, "", rfl⟩

/-- **A validation is translated there and back.** -/
theorem fromValidationResponse_eq {r : Except GoError ValidationResult} (h : Faithful r) :
    fromValidationResponse (validationResponse r) = r := by
  cases r with
  | ok result =>
      have hroute := Sessions.Appredis.decodeSessionRoute_encode h
      simp only [validationResponse, validationSuccessResponse, fromValidationResponse, hroute,
        Bool.true_eq_false, if_false]
  | error e =>
      obtain ⟨cause, sessionIP, rfl⟩ := h
      by_cases hempty : trim sessionIP = ""
      · have hreason := validationErrorFromReason_eq (.sentinel cause)
        simp only [validationErrorWithSessionIP, hempty, if_true, validationResponse,
          validationErrorResponse, fromValidationResponse, hreason, GoError.sessionIP, trim_empty]
        rfl
      · have hreason := validationErrorFromReason_eq (.validation cause (trim sessionIP))
        simp only [validationErrorWithSessionIP, hempty, if_false, GoError.class,
          validationResponse, validationErrorResponse, fromValidationResponse, if_true, hreason,
          GoError.sessionIP, trim_trim, Option.getD_some]

/-! ### The ends of the functions -/

theorem ends_resolveSessionRoute (sessionID : String) :
    (resolveSessionRoute sessionID).Ends fun lookup =>
      ∀ route, lookup = .found route → Sessions.Appredis.Valid route := by
  intro reply
  rcases reply with _ | _ | locator
  · intro route h
    cases h
  · intro route h
    cases h
  · simp only
    cases hdecode : Sessions.Appredis.decodeSessionRoute locator with
    | ok found =>
        intro route h
        cases h
        exact Sessions.Appredis.valid_of_decode hdecode
    | error e =>
        intro route h
        cases h

section Validation

variable {sessionID tokenDigest : String} {route : SessionRoute} {result : ValidationResult}

theorem ends_validatePeer {matchedID : String} {peerRoute : SessionRoute}
    (h : Sessions.Appredis.Valid result.route) :
    (validatePeer sessionID matchedID peerRoute result).Ends Faithful := by
  intro reply
  cases reply with
  | error e => exact faithful_fail _
  | ok peer =>
      simp only
      split
      · exact faithful_fail _
      · split
        · exact faithful_fail _
        · exact h

theorem ends_validatePeerRoute (h : Sessions.Appredis.Valid result.route) :
    (validatePeerRoute sessionID result).Ends Faithful := by
  refine ends_bind.2 (ends_of_forall (fun peerRoute => ?_) _)
  refine ends_bind.2 (ends_of_forall (fun ipBanned => ?_) _)
  rcases ipBanned with _ | _ | _
  · cases peerRoute <;> exact faithful_fail _
  · cases peerRoute with
    | found peerRoute => exact ends_validatePeer h
    | notFound => exact faithful_fail _
    | failed => exact faithful_fail _
  · cases peerRoute <;> exact ⟨_, _, rfl⟩

theorem ends_validateSnapshot (h : Sessions.Appredis.Valid route)
    (snapshot : Except StoreError SessionSnapshot) (sessionBanned : Except StoreError Bool) :
    (validateSnapshot route sessionID tokenDigest snapshot sessionBanned).Ends Faithful := by
  rcases snapshot with _ | snapshot
  · exact faithful_fail _
  · rcases sessionBanned with _ | sessionBanned
    · exact faithful_fail _
    · simp only [validateSnapshot]
      split
      · exact faithful_fail _
      · split
        · exact faithful_fail _
        · split
          · exact faithful_fail _
          · split
            · exact ⟨_, _, rfl⟩
            · split
              · exact faithful_fail _
              · exact ends_validatePeerRoute h

theorem ends_afterRoute {lookup : RouteLookup}
    (h : ∀ route, lookup = .found route → Sessions.Appredis.Valid route) :
    (afterRoute sessionID tokenDigest lookup).Ends Faithful := by
  cases lookup with
  | found route => exact fun snapshot sessionBanned => ends_validateSnapshot (h route rfl) _ _
  | notFound => exact faithful_fail _
  | failed => exact faithful_fail _

theorem ends_validateTURNUsername (username : String) :
    (validateTURNUsername username).Ends Faithful := by
  unfold validateTURNUsername
  cases parseUsername username with
  | none => exact faithful_fail _
  | some identity =>
      refine ends_bind.2 ?_
      exact Ends.mono (ends_resolveSessionRoute identity.1) fun lookup h => ends_afterRoute h

end Validation

theorem ends_reserveAllocationSlot (username : String) (limit : ℤ) :
    (reserveAllocationSlot username limit).Ends Plain := by
  unfold reserveAllocationSlot
  split
  · trivial
  · split
    · exact plain_fail _
    · rintro (_ | _ | _)
      · exact plain_fail _
      · exact plain_fail _
      · trivial

theorem ends_releaseAllocationSlot (username operationID : String) :
    (releaseAllocationSlot username operationID).Ends Plain := by
  unfold releaseAllocationSlot
  split
  · exact plain_fail _
  · split
    · exact plain_fail _
    · rintro (_ | _ | _)
      · exact plain_fail _
      · exact plain_fail _
      · trivial

theorem ends_onPendingRelease (username operationID : String) (c : String → String → Cmd) :
    (onPendingRelease rt username operationID c).Ends Plain := by
  unfold onPendingRelease
  split
  · rintro (_ | _)
    · exact plain_fail _
    · rintro (_ | _)
      · exact plain_fail _
      · trivial
  all_goals exact plain_fail _

theorem ends_pendingReleases (username : String) : (pendingReleases rt username).Ends Plain := by
  have hafter : ∀ decode reply, (afterHGetAll decode reply).Ends Plain := by
    intro decode reply
    cases reply with
    | error e => exact plain_fail _
    | ok fields =>
        simp only [afterHGetAll]
        split
        · exact plain_fail _
        · trivial
  unfold pendingReleases
  split
  · split
    · exact plain_fail _
    · exact hafter _
  · exact hafter _

theorem ends_checkBannedSessionIPs (sessionIPs : List String) :
    (checkBannedSessionIPs rt sessionIPs).Ends Plain := by
  unfold checkBannedSessionIPs
  split
  · trivial
  · refine ends_bind.2 (ends_of_forall (fun banned => ?_) _)
    cases banned with
    | error e => exact ⟨_, rfl⟩
    | ok banned => trivial

/-! ### Requests that hand their errors on -/

section Outcomes

variable {fates : ℕ → Fate} {s : Store}

/-- What is made of a result changes nothing about the store. -/
theorem outcome_bind_ret {α β : Type} (p : Prog α) (g : α → β) :
    outcome (p.bind fun a => .ret (g a)) fates s = (g (outcome p fates s).1, (outcome p fates s).2) :=
  runFates_bind_ret p g fates s

/-- An error that is handed on as a status has lost its name. -/
theorem sameOutcome_asStatus {α : Type} {r : Except GoError α} (h : Plain r) :
    SameOutcome r (asStatus r) ↔ r.isOk = true := by
  cases r with
  | ok a => exact ⟨fun _ => rfl, fun _ => rfl⟩
  | error e =>
      obtain ⟨cause, rfl⟩ := h
      refine ⟨fun hsame => ?_, fun hok => by cases hok⟩
      cases hsame.1

theorem isOk_joinBatches (reply banned : Except StoreError (List String)) :
    (joinBatches reply banned).isOk = true ↔ reply.isOk = true ∧ banned.isOk = true := by
  rcases reply with _ | values
  · exact ⟨fun h => (by cases h), fun h => by cases h.1⟩
  · rcases banned with _ | banned
    · exact ⟨fun h => (by cases h), fun h => by cases h.2⟩
    · exact ⟨fun _ => ⟨rfl, rfl⟩, fun _ => rfl⟩

theorem forall_lt_succ {p : ℕ → Prop} {n : ℕ} :
    (∀ k < n + 1, p k) ↔ p 0 ∧ ∀ k < n, p (k + 1) := by
  refine ⟨fun h => ⟨h 0 (by omega), fun k hk => h (k + 1) (by omega)⟩, fun h k hk => ?_⟩
  cases k with
  | zero => exact h.1
  | succ k => exact h.2 k (by omega)

/-- The batches have a result when every one of them is answered. -/
theorem isOk_runBatches (groups : List (List String)) (fates : ℕ → Fate) (s : Store) :
    (outcome (runBatches groups) fates s).1.isOk = true ↔
      ∀ k < (groups.filter (· ≠ [])).length, fates k = .answered := by
  induction groups generalizing fates s with
  | nil => exact ⟨fun _ k hk => absurd hk (Nat.not_lt_zero k), fun _ => rfl⟩
  | cons group groups ih =>
      by_cases hgroup : group = []
      · have hfilter : (group :: groups).filter (· ≠ []) = groups.filter (· ≠ []) := by
          simp [hgroup]
        rw [hfilter, runBatches, if_pos hgroup]
        exact ih fates s
      · have hfilter : (group :: groups).filter (· ≠ []) = group :: groups.filter (· ≠ []) := by
          simp [hgroup]
        have hnext : ∀ (reply : Except StoreError (List String)) (s' : Store),
            (outcome ((runBatches groups).bind fun banned => .ret (joinBatches reply banned))
                (fun k => fates (k + 1)) s').1.isOk = true ↔
              reply.isOk = true ∧
                ∀ k < (groups.filter (· ≠ [])).length, fates (k + 1) = .answered := by
          intro reply s'
          rw [outcome_bind_ret, isOk_joinBatches, ih]
        rw [hfilter, List.length_cons, forall_lt_succ, runBatches, if_neg hgroup]
        simp only [outcome, runFates]
        cases fates 0 with
        | answered => exact (hnext _ _).trans (and_congr_left fun _ => ⟨fun _ => rfl, fun _ => rfl⟩)
        | failed =>
            exact (hnext _ _).trans (and_congr_left fun _ => ⟨fun h => (by cases h), fun h => by cases h⟩)
        | lost =>
            exact (hnext _ _).trans (and_congr_left fun _ => ⟨fun h => (by cases h), fun h => by cases h⟩)

theorem isOk_afterBatches (normalized : List String) (banned : Except StoreError (List String)) :
    (afterBatches normalized banned).isOk = banned.isOk := by
  cases banned <;> rfl

/-- A ban check has a result when every batch is answered. -/
theorem isOk_checkBannedSessionIPs (sessionIPs : List String) :
    (outcome (checkBannedSessionIPs rt sessionIPs) fates s).1.isOk = true ↔
      ∀ k < batchCount rt sessionIPs, fates k = .answered := by
  by_cases hempty : normalizeSessionIPs sessionIPs = []
  · rw [batchCount, if_pos hempty, checkBannedSessionIPs, if_pos hempty]
    exact ⟨fun _ k hk => absurd hk (Nat.not_lt_zero k), fun _ => rfl⟩
  · rw [batchCount, if_neg hempty, checkBannedSessionIPs, if_neg hempty, outcome_bind_ret,
      isOk_afterBatches]
    exact isOk_runBatches _ fates s

/-- Every field of a hash is read, or none is. -/
theorem isOk_mapM {α β : Type} (f : α → Except Sentinel β) (l : List α) :
    (l.mapM f).isOk = true ↔ ∀ x ∈ l, (f x).isOk = true := by
  induction l with
  | nil => exact ⟨fun _ x h => absurd h List.not_mem_nil, fun _ => rfl⟩
  | cons x l ih =>
      rw [List.mapM_cons, List.forall_mem_cons, ← ih]
      cases hx : f x with
      | error e => exact ⟨fun h => (by cases h), fun h => by cases h.1⟩
      | ok b =>
          cases hl : l.mapM f with
          | error e => exact ⟨fun h => (by cases h), fun h => by cases h.2⟩
          | ok bs => exact ⟨fun _ => ⟨rfl, rfl⟩, fun _ => rfl⟩

theorem isOk_map {α β : Type} (f : α → β) (r : Except Sentinel α) : (r.map f).isOk = r.isOk := by
  cases r <;> rfl

/-- A hash is read when the command is answered and its fields can be read. -/
theorem isOk_afterHGetAll {decode : List String → Except Sentinel (List PendingRelease)}
    (key : String) :
    (outcome (.call (.hgetall key) (afterHGetAll decode)) fates s).1.isOk = true ↔
      fates 0 = .answered ∧ (decode (s.hashes key)).isOk = true := by
  simp only [outcome, runFates]
  cases fates 0 with
  | answered =>
      have hreply : (Store.exec (.hgetall key) s).1 = s.hashes key := rfl
      simp only [hreply, afterHGetAll, true_and]
      cases decode (s.hashes key) with
      | ok releases => exact ⟨fun _ => rfl, fun _ => rfl⟩
      | error cause => exact ⟨fun h => (by cases h), fun h => by cases h⟩
  | failed => exact ⟨fun h => (by cases h), fun h => by cases h.1⟩
  | lost => exact ⟨fun h => (by cases h), fun h => by cases h.1⟩

theorem isOk_pendingReleases (username : String) :
    (outcome (pendingReleases rt username) fates s).1.isOk = true ↔
      fates 0 = .answered ∧ Readable rt username s := by
  by_cases hempty : trim username ≠ ""
  · rw [pendingReleases, if_pos hempty, Readable, if_pos hempty]
    by_cases hparse : (parseUsername (trim username)).isSome
    · have hkey : pendingReleaseUserKey rt (trim username) =
          .ok (turnPendingReleaseIndexKey ++ ":" ++ rt.encode (trim username)) := by
        rw [pendingReleaseUserKey, trim_trim, if_neg hempty, if_neg (by rw [Option.isNone_iff_eq_none]; exact Option.isSome_iff_ne_none.1 hparse)]
      simp only [hkey, isOk_afterHGetAll, pendingReleasesFromUserFields, isOk_map, isOk_mapM]
      exact ⟨fun h => ⟨h.1, hparse, h.2⟩, fun h => ⟨h.1, h.2.2⟩⟩
    · have hkey : pendingReleaseUserKey rt (trim username) = .error .invalidSessionIdentity := by
        rw [pendingReleaseUserKey, trim_trim, if_neg hempty, if_pos (by simpa using hparse)]
      simp only [hkey]
      exact ⟨fun h => (by cases h), fun h => absurd h.2.1 hparse⟩
  · rw [pendingReleases, if_neg hempty, Readable, if_neg hempty, isOk_afterHGetAll,
      pendingReleasesFromGlobalFields, isOk_map, isOk_mapM]

end Outcomes

/-! ### Reservations with two limits -/

section Scripts

variable {now ttl : ℕ} {limit limit' : ℤ} {key : Option Key}

/-- Limits that a count compares alike with make no difference to the script. -/
theorem reserveScript_eq (h : SameAnswer limit limit' key) :
    reserveAllocationSlotScript now limit ttl key =
      reserveAllocationSlotScript now limit' ttl key := by
  unfold SameAnswer at h
  cases hfields : counterFields key with
  | error e => simp only [reserveAllocationSlotScript, hfields]
  | ok fields =>
      rw [hfields] at h
      simp only [reserveAllocationSlotScript, hfields, h]

/-- A reservation that counts writes one more than the count. -/
theorem reserveScript_granted {fields : GoMap ℤ} (hfields : counterFields key = .ok fields)
    (h : ¬ fields.get "count" + 1 > limit) :
    reserveAllocationSlotScript now limit ttl key = (.ok 1,
      some ⟨.hash (fields.insert "count" (fields.get "count" + 1)), some (now + ttl)⟩) := by
  simp only [reserveAllocationSlotScript, hfields, if_neg h]

variable (now ttl) in
/-- A reservation that is refused leaves the count, and no more than that. -/
theorem reserveScript_refused {fields : GoMap ℤ} (hfields : counterFields key = .ok fields)
    (h : fields.get "count" + 1 > limit) :
    ∃ key', reserveAllocationSlotScript now limit ttl key = (.ok 0, key') ∧
      ∀ expireAt, key' ≠
        some ⟨.hash (fields.insert "count" (fields.get "count" + 1)), expireAt⟩ := by
  by_cases hnone : fields.get "count" + 1 - 1 ≤ 0
  · refine ⟨none, ?_, fun expireAt heq => by cases heq⟩
    simp only [reserveAllocationSlotScript, hfields, if_pos h, if_pos hnone]
  · refine ⟨_, by simp only [reserveAllocationSlotScript, hfields, if_pos h, if_neg hnone]; rfl,
      fun expireAt heq => ?_⟩
    have hcount := congrArg Key.count heq
    simp only [Key.count_hash, GoMap.get_insert] at hcount
    omega

variable (now ttl) in
/-- Limits that a count compares differently with leave different counters. -/
theorem reserveScript_ne (h : ¬ SameAnswer limit limit' key) :
    (reserveAllocationSlotScript now limit ttl key).2 ≠
      (reserveAllocationSlotScript now limit' ttl key).2 := by
  unfold SameAnswer at h
  cases hfields : counterFields key with
  | error e =>
      rw [hfields] at h
      exact absurd trivial h
  | ok fields =>
      rw [hfields] at h
      by_cases habove : fields.get "count" + 1 > limit
      · have hbelow : ¬ fields.get "count" + 1 > limit' := fun h' => h ⟨fun _ => h', fun _ => habove⟩
        obtain ⟨key', hrefused, hne⟩ := reserveScript_refused now ttl hfields habove
        rw [hrefused, reserveScript_granted hfields hbelow]
        exact hne _
      · have habove' : fields.get "count" + 1 > limit' := by
          by_contra hbelow
          exact h ⟨fun h' => absurd h' habove, fun h' => absurd h' hbelow⟩
        obtain ⟨key', hrefused, hne⟩ := reserveScript_refused now ttl hfields habove'
        rw [hrefused, reserveScript_granted hfields habove]
        exact (hne _).symm

/-- A reservation that is granted does not leave the counter as it was. -/
theorem reserveScript_changes (h : (reserveAllocationSlotScript now limit ttl key).1 = .ok 1) :
    (reserveAllocationSlotScript now limit ttl key).2 ≠ key := by
  cases hfields : counterFields key with
  | error e => simp [reserveAllocationSlotScript, hfields] at h
  | ok fields =>
      by_cases habove : fields.get "count" + 1 > limit
      · obtain ⟨key', hrefused, -⟩ := reserveScript_refused now ttl hfields habove
        rw [hrefused] at h
        cases h
      · rw [reserveScript_granted hfields habove]
        rintro rfl
        -- the counter holds one more than its count
        have hsame : fields.insert "count" (fields.get "count" + 1) = fields :=
          Except.ok.inj hfields
        have hcount := congrArg (fun m : GoMap ℤ => m.get "count") hsame
        simp only [GoMap.get_insert] at hcount
        omega

end Scripts

section Reservations

variable {fates : ℕ → Fate} {s : Store} {username : String} {limit limit' : ℤ}

theorem outcome_reserve_nonpos (h : limit ≤ 0) :
    outcome (reserveAllocationSlot username limit) fates s = (.ok true, s) := by
  rw [reserveAllocationSlot, if_pos h]
  rfl

/-- A counter after a script. -/
def Store.setCounter (s : Store) (key : String) (value : Option Key) : Store :=
  { s with counters := Function.update s.counters key value }

theorem Store.setCounter_inj {key : String} {value value' : Option Key}
    (h : s.setCounter key value = s.setCounter key value') : value = value' := by
  have hcounters := congrFun (congrArg Store.counters h) key
  simpa [setCounter] using hcounters

theorem Store.setCounter_eq_self {key : String} {value : Option Key}
    (h : s.setCounter key value = s) : value = s.counters key := by
  have hcounters := congrFun (congrArg Store.counters h) key
  simpa [setCounter] using hcounters

/-- The reply to a reservation. -/
def reserveReply : Except ScriptError ℤ → Except GoError Bool
  | .ok result => .ok (result = 1)
  | .error _ => .error (.sentinel .validationBackend)

theorem outcome_afterReserve (reply : Except ScriptError ℤ) :
    outcome (afterReserve (.ok reply)) fates s = (reserveReply reply, s) := by
  cases reply <;> rfl

section Named

variable {identity : String × String} (hparse : parseUsername username = some identity)
include hparse

/-- The script that a reservation runs. -/
theorem outcome_reserve (h : 0 < limit) :
    outcome (reserveAllocationSlot username limit) fates s =
      let key := turnAllocationKey identity.1
      let script := reserveAllocationSlotScript s.now limit turnAllocationCounterTTL (s.counters key)
      match fates 0 with
      | .answered => (reserveReply script.1, s.setCounter key script.2)
      | .failed => (.error (.sentinel .validationBackend), s)
      | .lost => (.error (.sentinel .validationBackend), s.setCounter key script.2) := by
  rw [reserveAllocationSlot, if_neg (by omega)]
  simp only [hparse]
  unfold outcome
  simp only [runFates]
  cases fates 0 with
  | answered => exact outcome_afterReserve _
  | failed => rfl
  | lost => rfl

/-- **Reservations with two positive limits agree** where the command has no effect, or the count
compares alike with both. -/
theorem reserve_agrees_pos_iff (h : 0 < limit) (h' : 0 < limit') :
    (SameOutcome (outcome (reserveAllocationSlot username limit) fates s).1
        (outcome (reserveAllocationSlot username limit') fates s).1 ∧
      (outcome (reserveAllocationSlot username limit) fates s).2 =
        (outcome (reserveAllocationSlot username limit') fates s).2) ↔
      fates 0 = .failed ∨ SameAnswer limit limit' (s.counters (turnAllocationKey identity.1)) := by
  rw [outcome_reserve hparse h, outcome_reserve hparse h']
  by_cases hsame : SameAnswer limit limit' (s.counters (turnAllocationKey identity.1))
  · simp only [reserveScript_eq hsame]
    exact ⟨fun _ => .inr hsame, fun _ => ⟨.refl _, trivial⟩⟩
  · have hne : ∀ now ttl, _ := fun now ttl =>
      reserveScript_ne now ttl hsame
    cases hfate : fates 0 with
    | failed => exact ⟨fun _ => .inl rfl, fun _ => ⟨.refl _, rfl⟩⟩
    | answered | lost =>
        refine ⟨fun hagree => absurd (Store.setCounter_inj hagree.2) (hne _ _), fun hor => ?_⟩
        rcases hor with heq | heq
        · cases heq
        · exact absurd heq hsame

/-- A reservation with a positive limit is never without effect and granted. -/
theorem not_outcome_reserve_pos (h : 0 < limit) :
    ¬ ((outcome (reserveAllocationSlot username limit) fates s).1 = .ok true ∧
      (outcome (reserveAllocationSlot username limit) fates s).2 = s) := by
  rw [outcome_reserve hparse h]
  rintro ⟨hresult, hstore⟩
  cases hfate : fates 0 with
  | failed | lost =>
      rw [hfate] at hresult
      cases hresult
  | answered =>
      rw [hfate] at hresult hstore
      have hkept := Store.setCounter_eq_self hstore
      have hgranted : (reserveAllocationSlotScript s.now limit turnAllocationCounterTTL
          (s.counters (turnAllocationKey identity.1))).1 = .ok 1 := by
        cases hreply : (reserveAllocationSlotScript s.now limit turnAllocationCounterTTL
            (s.counters (turnAllocationKey identity.1))).1 with
        | error e =>
            simp only [hreply, reserveReply, reduceCtorEq] at hresult
        | ok result =>
            simp only [hreply, reserveReply, Except.ok.injEq, decide_eq_true_eq] at hresult
            rw [hresult]
      exact reserveScript_changes hgranted hkept

end Named

theorem sameOutcome_ok_iff {r : Except GoError Bool} {b : Bool} :
    (SameOutcome r (.ok b) ↔ r = .ok b) ∧ (SameOutcome (.ok b) r ↔ r = .ok b) := by
  cases r with
  | ok a => exact ⟨⟨fun h => congrArg _ h, Except.ok.inj⟩, ⟨fun h => congrArg _ (Eq.symm h),
      fun h => (Except.ok.inj h).symm⟩⟩
  | error e => exact ⟨⟨False.elim, fun h => by cases h⟩, ⟨False.elim, fun h => by cases h⟩⟩

/-- The outcome of a reservation with a positive limit under a name that cannot be read. -/
theorem outcome_reserve_none (h : 0 < limit) (hparse : parseUsername username = none) :
    outcome (reserveAllocationSlot username limit) fates s =
      (.error (.sentinel .invalidSessionIdentity), s) := by
  rw [reserveAllocationSlot, if_neg (by omega)]
  simp only [hparse]
  rfl

/-- A reservation with a positive limit does not agree with one that is always granted. -/
theorem not_granted_reserve_pos (h : 0 < limit) :
    ¬ ((outcome (reserveAllocationSlot username limit) fates s).1 = .ok true ∧
      (outcome (reserveAllocationSlot username limit) fates s).2 = s) := by
  cases hparse : parseUsername username with
  | none =>
      rw [outcome_reserve_none h hparse]
      exact fun hagree => by cases hagree.1
  | some identity => exact not_outcome_reserve_pos hparse h

/-- **Reservations with two limits agree when the limits count alike.** -/
theorem reserve_agrees_iff :
    (SameOutcome (outcome (reserveAllocationSlot username limit) fates s).1
        (outcome (reserveAllocationSlot username limit') fates s).1 ∧
      (outcome (reserveAllocationSlot username limit) fates s).2 =
        (outcome (reserveAllocationSlot username limit') fates s).2) ↔
      SameLimit username limit limit' fates s := by
  by_cases h : limit ≤ 0
  · rw [outcome_reserve_nonpos h]
    by_cases h' : limit' ≤ 0
    · rw [outcome_reserve_nonpos h']
      exact ⟨fun _ => ⟨⟨fun _ => h', fun _ => h⟩, fun hpos => by omega⟩, fun _ => ⟨rfl, rfl⟩⟩
    · refine ⟨fun hagree => ?_, fun hsame => absurd (hsame.1.1 h) h'⟩
      have hgranted := sameOutcome_ok_iff.2.1 hagree.1
      exact absurd ⟨hgranted, hagree.2.symm⟩ (not_granted_reserve_pos (by omega))
  · by_cases h' : limit' ≤ 0
    · rw [outcome_reserve_nonpos h']
      refine ⟨fun hagree => ?_, fun hsame => absurd (hsame.1.2 h') h⟩
      have hgranted := sameOutcome_ok_iff.1.1 hagree.1
      exact absurd ⟨hgranted, hagree.2⟩ (not_granted_reserve_pos (by omega))
    · have hpos : 0 < limit := by omega
      have hpos' : 0 < limit' := by omega
      have hsigns : limit ≤ 0 ↔ limit' ≤ 0 := ⟨fun h'' => absurd h'' h, fun h'' => absurd h'' h'⟩
      cases hparse : parseUsername username with
      | none =>
          rw [outcome_reserve_none hpos hparse, outcome_reserve_none hpos' hparse]
          refine ⟨fun _ => ⟨hsigns, fun _ identity hidentity => ?_⟩, fun _ => ⟨.refl _, rfl⟩⟩
          rw [hparse] at hidentity
          cases hidentity
      | some identity =>
          rw [reserve_agrees_pos_iff hparse hpos hpos']
          refine ⟨fun hor => ⟨hsigns, fun _ other hother => ?_⟩, fun hsame => ?_⟩
          · obtain rfl : identity = other := Option.some.inj (hparse.symm.trans hother)
            exact hor
          · exact hsame.2 hpos identity hparse

end Reservations

/-! ### Both ways -/

/-- A request whose result is translated there and back. -/
theorem agrees_of_translated {req : Request} {g : Except GoError req.Result → Except GoError req.Result}
    {fates : ℕ → Fate} {s : Store}
    (hremote : remote rt req = (direct rt req).bind fun r => .ret (g r))
    (h : g (outcome (direct rt req) fates s).1 = (outcome (direct rt req) fates s).1) :
    Agrees rt req fates s := by
  rw [Agrees, hremote, outcome_bind_ret, h]
  exact ⟨.refl _, rfl⟩

/-- A request that hands its errors on. -/
theorem agrees_iff_isOk (req : Request) {fates : ℕ → Fate} {s : Store}
    (hremote : remote rt req = (direct rt req).bind fun r => .ret (asStatus r))
    (h : (direct rt req).Ends Plain) :
    Agrees rt req fates s ↔ (outcome (direct rt req) fates s).1.isOk = true := by
  have hplain : Plain (outcome (direct rt req) fates s).1 := h.runFates fates s
  rw [Agrees, hremote, outcome_bind_ret, ← sameOutcome_asStatus hplain]
  exact ⟨fun hagree => hagree.1, fun hsame => ⟨hsame, rfl⟩⟩

/-- **Both ways agree exactly on portable requests.** -/
theorem agrees_iff_portable (rt : Runtime) (req : Request) (fates : ℕ → Fate) (s : Store) :
    Agrees rt req fates s ↔ Portable rt req fates s := by
  cases req with
  | validateTURNUsername username =>
      refine iff_of_true (agrees_of_translated rt rfl ?_) trivial
      exact fromValidationResponse_eq ((ends_validateTURNUsername username).runFates fates s)
  | checkBannedSessionIPs sessionIPs =>
      exact (agrees_iff_isOk rt (.checkBannedSessionIPs sessionIPs) rfl
        (ends_checkBannedSessionIPs rt sessionIPs)).trans (isOk_checkBannedSessionIPs rt sessionIPs)
  | reserveTURNAllocation username limit =>
      have hreply := fromReserveResponse_eq
        (@Ends.runFates _ _ _ _ _ _ Store.exec .failed _
          (ends_reserveAllocationSlot username (int32 limit)) fates s)
      have hremote : outcome (remote rt (.reserveTURNAllocation username limit)) fates s =
          outcome (reserveAllocationSlot username (int32 limit)) fates s :=
        (outcome_bind_ret _ _).trans (Prod.ext hreply rfl)
      rw [Agrees, hremote]
      exact reserve_agrees_iff
  | releaseTURNAllocation username operationID =>
      refine iff_of_true (agrees_of_translated rt rfl ?_) trivial
      exact fromDoneResponse_eq ((ends_releaseAllocationSlot username operationID).runFates fates s)
  | queuePendingTURNRelease username operationID =>
      refine iff_of_true (agrees_of_translated rt rfl ?_) trivial
      exact fromDoneResponse_eq
        ((ends_onPendingRelease rt username operationID .hset).runFates fates s)
  | pendingTURNReleases username =>
      exact (agrees_iff_isOk rt (.pendingTURNReleases username) rfl
        (ends_pendingReleases rt username)).trans (isOk_pendingReleases rt username)
  | completePendingTURNRelease username operationID =>
      refine iff_of_true (agrees_of_translated rt rfl ?_) trivial
      exact fromDoneResponse_eq
        ((ends_onPendingRelease rt username operationID .hdel).runFates fates s)

section WideLimit

/-- An encoding that changes nothing, and one batch. -/
def plainRuntime : Runtime := ⟨id, some, fun sessionIPs => [sessionIPs]⟩

/-- A store without keys. -/
def emptyStore : Store := ⟨0, fun _ => none, fun _ => none, fun _ => []⟩

/-- A limit of `2 ^ 32` is sent as zero, with which a reservation is always granted. -/
theorem wideLimit_disagrees : ¬ ∀ (rt : Runtime) (req : Request) (fates : ℕ → Fate) (s : Store),
    Agrees rt req fates s := by
  intro h
  obtain ⟨hresult, hstore⟩ :=
    h plainRuntime (.reserveTURNAllocation sessionUsername (2 ^ 32)) (fun _ => .answered) emptyStore
  have hremote : outcome (remote plainRuntime (.reserveTURNAllocation sessionUsername (2 ^ 32)))
      (fun _ => .answered) emptyStore = (.ok true, emptyStore) := rfl
  rw [hremote] at hresult hstore
  have hgranted : (outcome (reserveAllocationSlot sessionUsername (2 ^ 32)) (fun _ => .answered)
      emptyStore).1 = .ok true := sameOutcome_ok_iff.1.1 hresult
  exact not_granted_reserve_pos (by decide) ⟨hgranted, hstore⟩

end WideLimit

end Turn.Control
