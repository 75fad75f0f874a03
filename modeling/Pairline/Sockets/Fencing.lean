/-
**Disconnects and generations.**

The end of a match is announced to the channel, or to the bot worker, of a session.  A channel acts on
a disconnect that carries the generation it holds, and on any that carries none; a worker acts on
every one.  Generations are the numbers that a node counts up from its start.

One process is looked at, with the matches of its sessions.

Main definitions:

* `Sockets.Worker`, `Sockets.Process.receive` — a bot worker, and what a process makes of a message;
* `Sockets.Cluster.step` — **nodes that make matches, and disconnects in any order**;
* `Sockets.Apart` — no disconnect is acted on in another match, and no generation is given twice;
* `Sockets.Guarded` — no number is given twice, and disconnects that name no match, or another, are not
  overtaken.

Main results:

* `Sockets.Guarding.step` — what the disconnects on their way are about;
* `Sockets.apart_of_guarded` — **guarded disconnects stay in their matches**;
* `Sockets.staleDisconnect_isActedOn` — a disconnect without a generation ends the next match.
-/

import Mathlib.Logic.Function.Basic
import Pairline.Sockets.Channel

set_option relaxedAutoImplicit false
set_option autoImplicit false

namespace Sockets

open Matchmaker (SessionId)
open Transition

/-! ### Processes -/

/-- What a bot worker keeps of the match it is in. -/
structure Worker where
  humanSessionId : SessionId
  matchGeneration : Option Generation
  stopped : Bool
  deriving DecidableEq

/-- **What a bot worker does with what the router brings**: it stops when the partner is a bot, and at
any disconnect. -/
def workerInfo (isBot : SessionId → Bool) (worker : Worker) : Incoming → Worker
  | .routerMatch partnerId _ matchGeneration _ _ _ =>
      if isBot partnerId then { worker with stopped := true }
      else { worker with humanSessionId := partnerId, matchGeneration := matchGeneration }
  | .routerDisconnect _ _ => { worker with stopped := true }
  | .routerTimeout => { worker with stopped := true }
  | _ => worker

inductive Process
  | channel (socket : Socket)
  | worker (w : Worker)

def Incoming.isDisconnect : Incoming → Bool
  | .routerDisconnect _ _ => true
  | _ => false

namespace Process

def isChannel : Process → Bool
  | .channel _ => true
  | .worker _ => false

/-- The generation of the match the process holds. -/
def generation : Process → Option Generation
  | .channel socket => socket.matchGeneration
  | .worker w => w.matchGeneration

/-- The process holds no match: a channel without a partner, or a worker that has stopped. -/
def isFree : Process → Bool
  | .channel socket => socket.partnerId.isNone
  | .worker w => w.stopped

def receive (isBot : SessionId → Bool) : Process → Incoming → Process
  | .channel socket, message => .channel (handleInfo socket message).1
  | .worker w, message =>
      if w.stopped then .worker w else .worker (workerInfo isBot w message)

/-- **A disconnect is acted on**: the assigns are cleared and the client is told, or the worker
stops. -/
def actsOn : Process → Incoming → Bool
  | .channel _, .routerDisconnect _ none => true
  | .channel socket, .routerDisconnect _ (some generation) =>
      socket.matchGeneration = some generation
  | .worker w, .routerDisconnect _ _ => !w.stopped
  | _, _ => false

end Process

/-! ### A cluster -/

abbrev NodeId := ℕ

/-- **The generation of a match**, from a number that is unique in one run of its node. -/
def generateMatchGeneration (number : ℕ) : Generation := toString number

theorem generateMatchGeneration_inj {m n : ℕ}
    (h : generateMatchGeneration m = generateMatchGeneration n) : m = n := by
  have hdigits : Nat.toDigits 10 m = Nat.toDigits 10 n := by
    rw [← Nat.toList_repr, ← Nat.toList_repr]
    exact congrArg String.toList h
  rw [← @Nat.ofDigitChars_ten_toDigits m, hdigits, Nat.ofDigitChars_ten_toDigits]

/-- A match of a session of the process, with the number its node has given it. -/
structure IssuedMatch where
  partnerId : SessionId
  number : ℕ

def IssuedMatch.generation (r : IssuedMatch) : Generation := generateMatchGeneration r.number

structure Cluster where
  /-- The last number each node has given. -/
  counters : NodeId → ℕ
  history : List IssuedMatch
  process : Process
  held : Option ℕ
  mailbox : List Parcel

inductive ClusterEvent
  /-- A node makes a match of the session of the process. -/
  | pair (node : NodeId) (partnerId : SessionId)
  /-- A node makes a match of other sessions. -/
  | issue (node : NodeId)
  | restart (node : NodeId)
  /-- A disconnect is produced for the end of a match. -/
  | disconnect (m : ℕ) (reason : String) (generation : Option Generation)
  /-- A client leaves its match, or its session. -/
  | leave (sessionId : Option SessionId)
  | handle (k : ℕ)

namespace Cluster

def start (counters : NodeId → ℕ) (process : Process) : Cluster :=
  { counters := counters, history := [], process := process, held := none, mailbox := [] }

def post (s : Cluster) (message : Incoming) (of : ℕ) : Cluster :=
  { s with mailbox := s.mailbox ++ [⟨message, some of⟩] }

/-- The match the process holds after it has received a message. -/
def heldAfter (isBot : SessionId → Bool) (s : Cluster) (parcel : Parcel) : Option ℕ :=
  if (s.process.receive isBot parcel.message).isFree then none
  else if parcel.message.isMatch then parcel.of else s.held

/-- **Nodes that make matches, and disconnects in any order**, one event at a time. -/
def step (isBot : SessionId → Bool) (s : Cluster) : ClusterEvent → Option Cluster
  | .pair node partnerId =>
      let number := s.counters node + 1
      some { s.post (.routerMatch partnerId [] (generateMatchGeneration number) none none none)
          s.history.length with
        counters := Function.update s.counters node number
        history := s.history ++ [⟨partnerId, number⟩] }
  | .issue node =>
      some { s with counters := Function.update s.counters node (s.counters node + 1) }
  | .restart node => some { s with counters := Function.update s.counters node 0 }
  | .disconnect m reason generation => do
      guard (m < s.history.length)
      return s.post (.routerDisconnect reason generation) m
  | .leave sessionId =>
      match s.process with
      | .channel socket =>
          some { s with
            process := .channel { clearMatchAssigns socket with sessionId := sessionId }
            held := none }
      | .worker _ => none
  | .handle k => do
      let parcel ← s.mailbox[k]?
      return { s with
        process := s.process.receive isBot parcel.message
        mailbox := s.mailbox.eraseIdx k
        held := s.heldAfter isBot parcel }

end Cluster

/-! ### The law -/

/-- **Matches are kept apart**: a disconnect is not acted on by a process that holds a match it was not
produced for, and no match is given the generation of another. -/
def Apart (s : Cluster) : ClusterEvent → Prop
  | .pair node _ => ∀ r ∈ s.history,
      r.generation ≠ generateMatchGeneration (s.counters node + 1)
  | .handle k => ∀ parcel ∈ s.mailbox[k]?, s.process.actsOn parcel.message = true →
      ∀ m ∈ s.held, parcel.of = some m
  | _ => True

instance (s : Cluster) (ev : ClusterEvent) : Decidable (Apart s ev) := by
  cases ev <;> unfold Apart <;> infer_instance

/-- A disconnect carries the generation of its match, and is for a channel. -/
def Tagged (s : Cluster) (m : ℕ) (generation : Option Generation) : Prop :=
  s.process.isChannel = true ∧ ∃ r ∈ s.history[m]?, generation = some r.generation

instance (s : Cluster) (m : ℕ) (generation : Option Generation) :
    Decidable (Tagged s m generation) := by
  unfold Tagged
  infer_instance

/-- A disconnect on its way does not carry the generation of its match, or is for a worker. -/
def Bare (s : Cluster) (parcel : Parcel) : Prop :=
  match parcel.message, parcel.of with
  | .routerDisconnect _ generation, some m => ¬ Tagged s m generation
  | _, _ => False

instance (s : Cluster) (parcel : Parcel) : Decidable (Bare s parcel) := by
  unfold Bare
  split <;> infer_instance

/-- **Disconnects are guarded**: no node gives the number of an earlier match of the process; and a
disconnect that does not carry the generation of its match, or is for a worker, is produced while the
process holds its match or none, and received before the process takes another match up. -/
def Guarded (s : Cluster) : ClusterEvent → Prop
  | .pair node _ => ∀ r ∈ s.history, r.number ≠ s.counters node + 1
  | .disconnect m _ generation => Tagged s m generation ∨ ∀ h ∈ s.held, h = m
  | .handle k => ∀ parcel ∈ s.mailbox[k]?, parcel.message.isMatch = true →
      ∀ other ∈ s.mailbox, Bare s other → other.of = parcel.of
  | _ => True

instance (s : Cluster) (ev : ClusterEvent) : Decidable (Guarded s ev) := by
  cases ev <;> unfold Guarded <;> infer_instance

/-! ### What the disconnects are about -/

/-- **What the disconnects on their way, and the process, are about.** -/
structure Guarding (s : Cluster) : Prop where
  held : ∀ m, s.held = some m → ∃ r, s.history[m]? = some r ∧
    s.process.generation = some r.generation
  mailbox : ∀ parcel ∈ s.mailbox, ∃ m, parcel.of = some m ∧
    match parcel.message with
    | .routerMatch _ _ generation _ _ _ => ∃ r, s.history[m]? = some r ∧
        generation = some r.generation
    | .routerDisconnect _ generation => Tagged s m generation ∨ ∀ h ∈ s.held, h = m
    | _ => False
  distinct : ∀ (i j : ℕ) (r r' : IssuedMatch), s.history[i]? = some r → s.history[j]? = some r' →
    r.number = r'.number → i = j

namespace Guarding

variable {isBot : SessionId → Bool} {s t : Cluster}

theorem start (counters : NodeId → ℕ) (process : Process) :
    Guarding (Cluster.start counters process) where
  held m h := by cases h
  mailbox parcel h := by cases h
  distinct i j r r' h := by
    simp [Cluster.start] at h

/-- **What is acted on is of the match held.** -/
theorem apart_handle (h : Guarding s) {parcel : Parcel} (hmem : parcel ∈ s.mailbox)
    (hacts : s.process.actsOn parcel.message = true) {m : ℕ} (hm : s.held = some m) :
    parcel.of = some m := by
  obtain ⟨m', hof, hsays⟩ := h.mailbox parcel hmem
  rw [hof]
  obtain ⟨message, of⟩ := parcel
  cases message with
  | routerDisconnect reason generation =>
      rcases hsays with ⟨hchannel, r', hr', rfl⟩ | hall
      · obtain ⟨r, hr, hgeneration⟩ := h.held m hm
        cases hprocess : s.process with
        | channel socket =>
            rw [hprocess] at hacts hgeneration
            have hsame : socket.matchGeneration = some r'.generation := of_decide_eq_true hacts
            have hnumber : r.number = r'.number :=
              generateMatchGeneration_inj (Option.some_inj.1 (hgeneration.symm.trans hsame))
            exact congrArg some (h.distinct m m' r r' hr hr' hnumber).symm
        | worker w =>
            rw [hprocess] at hchannel
            cases hchannel
      · exact congrArg some (hall m hm).symm
  | routerMatch partnerId commonInterests generation route ownerNode video =>
      cases hprocess : s.process <;> simp [hprocess, Process.actsOn] at hacts
  | routerMessage type sender generation data => exact hsays.elim
  | routerTimeout => exact hsays.elim
  | routerBanned reason => exact hsays.elim

theorem apart (h : Guarding s) {ev : ClusterEvent} (hok : Guarded s ev) : Apart s ev := by
  cases ev with
  | pair node partnerId =>
      intro r hr hgeneration
      exact hok r hr (generateMatchGeneration_inj hgeneration)
  | handle k =>
      intro parcel hparcel hacts m hm
      exact h.apart_handle (List.mem_of_getElem? hparcel) hacts hm
  | _ => trivial

/-- A step that keeps the process and its matches. -/
theorem of_counters (h : Guarding s) (counters : NodeId → ℕ) :
    Guarding { s with counters := counters } :=
  ⟨h.held, h.mailbox, h.distinct⟩

theorem tagged_of_history {m : ℕ} {generation : Option Generation}
    (hchannel : t.process.isChannel = s.process.isChannel)
    (hhistory : ∀ r, s.history[m]? = some r → t.history[m]? = some r)
    (h : Tagged s m generation) : Tagged t m generation := by
  obtain ⟨hs, r, hr, hgeneration⟩ := h
  exact ⟨hchannel.trans hs, r, hhistory r hr, hgeneration⟩

/-- **A match is made.** -/
theorem pair (h : Guarding s) {r : IssuedMatch} (hfresh : ∀ r' ∈ s.history, r'.number ≠ r.number) :
    Guarding { s.post (.routerMatch r.partnerId [] r.generation none none none) s.history.length with
      history := s.history ++ [r] } := by
  have hget : ∀ (m : ℕ) (r' : IssuedMatch), s.history[m]? = some r' →
      (s.history ++ [r])[m]? = some r' := by
    intro m r' hr'
    rwa [List.getElem?_append_left (List.getElem?_eq_some_iff.1 hr').1]
  constructor
  case held =>
    intro m hm
    obtain ⟨r', hr', hgeneration⟩ := h.held m hm
    exact ⟨r', hget m r' hr', hgeneration⟩
  case mailbox =>
    intro parcel hmem
    rcases List.mem_append.1 hmem with hmem | hmem
    · obtain ⟨m, hof, hsays⟩ := h.mailbox parcel hmem
      refine ⟨m, hof, ?_⟩
      obtain ⟨message, of⟩ := parcel
      cases message with
      | routerMatch partnerId commonInterests generation route ownerNode video =>
          obtain ⟨r', hr', hgeneration⟩ := hsays
          exact ⟨r', hget m r' hr', hgeneration⟩
      | routerDisconnect reason generation =>
          rcases hsays with htagged | hall
          · exact .inl (tagged_of_history (s := s) rfl (hget m) htagged)
          · exact .inr hall
      | routerMessage type sender generation data => exact hsays
      | routerTimeout => exact hsays
      | routerBanned reason => exact hsays
    · obtain rfl := List.mem_singleton.1 hmem
      exact ⟨s.history.length, rfl, r, List.getElem?_concat_length, rfl⟩
  case distinct =>
    intro i j q q' hi hj hnumber
    exact index_unique_append (fun _ _ => Eq.symm) h.distinct hfresh hi hj hnumber

/-- **A disconnect is produced.** -/
theorem disconnect (h : Guarding s) {m : ℕ} {reason : String} {generation : Option Generation}
    (hok : Tagged s m generation ∨ ∀ h ∈ s.held, h = m) :
    Guarding (s.post (.routerDisconnect reason generation) m) where
  held := h.held
  mailbox parcel hmem := by
    rcases List.mem_append.1 hmem with hmem | hmem
    · exact h.mailbox parcel hmem
    · obtain rfl := List.mem_singleton.1 hmem
      exact ⟨m, rfl, hok⟩
  distinct := h.distinct

/-- The process goes on, with no match it has not held, and fewer messages. -/
theorem of_process (h : Guarding s) {process : Process} {held : Option ℕ} {mailbox : List Parcel}
    (hsub : ∀ parcel ∈ mailbox, parcel ∈ s.mailbox)
    (hchannel : process.isChannel = s.process.isChannel)
    (hheld : ∀ m, held = some m → ∃ r, s.history[m]? = some r ∧
      process.generation = some r.generation)
    (hbare : ∀ parcel ∈ mailbox, Bare s parcel → ∀ m ∈ held, m ∈ s.held ∨ parcel.of = some m) :
    Guarding { s with process := process, held := held, mailbox := mailbox } where
  held := hheld
  mailbox parcel hmem := by
    obtain ⟨m, hof, hsays⟩ := h.mailbox parcel (hsub parcel hmem)
    refine ⟨m, hof, ?_⟩
    have hown := hbare parcel hmem
    obtain ⟨message, of⟩ := parcel
    cases message with
    | routerMatch partnerId commonInterests generation route ownerNode video => exact hsays
    | routerDisconnect reason generation =>
        by_cases htagged : Tagged s m generation
        · exact .inl (tagged_of_history hchannel (fun _ => id) htagged)
        · refine .inr fun m' hm' => ?_
          obtain rfl : of = some m := hof
          rcases hown htagged m' hm' with hold | hnew
          · rcases hsays with htagged' | hall
            · exact absurd htagged' htagged
            · exact hall m' hold
          · exact (Option.some_inj.1 hnew).symm
    | routerMessage type sender generation data => exact hsays
    | routerTimeout => exact hsays
    | routerBanned reason => exact hsays
  distinct := h.distinct

theorem isChannel_receive (isBot : SessionId → Bool) (process : Process) (message : Incoming) :
    (process.receive isBot message).isChannel = process.isChannel := by
  cases process with
  | channel socket => rfl
  | worker w =>
      simp only [Process.receive]
      split <;> rfl

/-- A process that has taken a match up holds its generation. -/
theorem generation_receive_match (isBot : SessionId → Bool) (process : Process)
    (partnerId : SessionId) (commonInterests : List String) (generation : Option Generation)
    (route : Option Sessions.Route) (ownerNode : Option String) (video : Option Bool)
    (hfree : (process.receive isBot (.routerMatch partnerId commonInterests generation route
      ownerNode video)).isFree = false) :
    (process.receive isBot (.routerMatch partnerId commonInterests generation route ownerNode
      video)).generation = generation := by
  cases process with
  | channel socket => rfl
  | worker w =>
      simp only [Process.receive] at hfree ⊢
      split at hfree
      case isTrue hstopped => exact absurd (hfree.symm.trans hstopped) (by simp)
      case isFalse hstopped =>
        simp only [if_neg hstopped, workerInfo] at hfree ⊢
        split at hfree
        case isTrue => cases hfree
        case isFalse hbot =>
          rw [if_neg hbot]
          rfl

/-- A process that has received something else, and still holds a match, holds the same one. -/
theorem generation_receive_of_not_match (isBot : SessionId → Bool) (process : Process)
    {message : Incoming} (hmatch : message.isMatch = false)
    (hfree : (process.receive isBot message).isFree = false) :
    (process.receive isBot message).generation = process.generation := by
  cases process with
  | channel socket =>
      rcases Sound.handleInfo_cases socket hmatch with hsame | hclear
      · simp only [Process.receive, hsame]
      · simp only [Process.receive, hclear] at hfree
        cases hfree
  | worker w =>
      simp only [Process.receive] at hfree ⊢
      split at hfree
      case isTrue hstopped => rw [if_pos hstopped]
      case isFalse hstopped =>
        rw [if_neg hstopped]
        cases message with
        | routerMatch partnerId commonInterests generation route ownerNode video => cases hmatch
        | routerMessage type sender generation data => rfl
        | routerDisconnect reason generation => rfl
        | routerTimeout => rfl
        | routerBanned reason => rfl

/-- **A message is received.** -/
theorem handle (h : Guarding s) {k : ℕ} {parcel : Parcel} (hk : s.mailbox[k]? = some parcel)
    (hok : parcel.message.isMatch = true → ∀ other ∈ s.mailbox, Bare s other →
      other.of = parcel.of) :
    Guarding { s with
      process := s.process.receive isBot parcel.message
      mailbox := s.mailbox.eraseIdx k
      held := s.heldAfter isBot parcel } := by
  have hsub : ∀ other ∈ s.mailbox.eraseIdx k, other ∈ s.mailbox :=
    fun other hmem => List.mem_of_mem_eraseIdx hmem
  have hheld : ∀ m, s.heldAfter isBot parcel = some m →
      (s.process.receive isBot parcel.message).isFree = false ∧
        (parcel.message.isMatch = true ∧ parcel.of = some m ∨
          parcel.message.isMatch = false ∧ s.held = some m) := by
    intro m hm
    unfold Cluster.heldAfter at hm
    split at hm
    case isTrue => cases hm
    case isFalse hfree =>
      refine ⟨by simpa using hfree, ?_⟩
      split at hm
      case isTrue hmatch => exact .inl ⟨hmatch, hm⟩
      case isFalse hmatch => exact .inr ⟨by simpa using hmatch, hm⟩
  refine h.of_process hsub (isChannel_receive isBot s.process parcel.message) ?_ ?_
  · intro m hm
    obtain ⟨hfree, ⟨hmatch, hof⟩ | ⟨hmatch, hold⟩⟩ := hheld m hm
    · obtain ⟨m', hof', hsays⟩ := h.mailbox parcel (List.mem_of_getElem? hk)
      obtain rfl := Option.some_inj.1 (hof.symm.trans hof')
      obtain ⟨message, of⟩ := parcel
      cases message with
      | routerMatch partnerId commonInterests generation route ownerNode video =>
          obtain ⟨r, hr, hgeneration⟩ := hsays
          exact ⟨r, hr, (generation_receive_match isBot s.process partnerId commonInterests
            generation route ownerNode video hfree).trans hgeneration⟩
      | routerMessage type sender generation data => cases hmatch
      | routerDisconnect reason generation => cases hmatch
      | routerTimeout => cases hmatch
      | routerBanned reason => cases hmatch
    · obtain ⟨r, hr, hgeneration⟩ := h.held m hold
      exact ⟨r, hr, (generation_receive_of_not_match isBot s.process hmatch hfree).trans
        hgeneration⟩
  · intro other hmem hbare m hm
    obtain ⟨-, ⟨hmatch, hof⟩ | ⟨-, hold⟩⟩ := hheld m hm
    · exact .inr ((hok hmatch other (hsub other hmem) hbare).trans hof)
    · exact .inl hold

/-- **One guarded event keeps the disconnects in their matches.** -/
theorem step (h : Guarding s) {ev : ClusterEvent} (hok : Guarded s ev)
    (hs : s.step isBot ev = some t) : Guarding t := by
  cases ev with
  | pair node partnerId =>
      cases hs
      exact of_counters (h.pair (r := ⟨partnerId, s.counters node + 1⟩) hok) _
  | issue node =>
      cases hs
      exact h.of_counters _
  | restart node =>
      cases hs
      exact h.of_counters _
  | disconnect m reason generation =>
      simp only [Cluster.step, Option.bind_eq_bind, Option.bind_eq_some_iff] at hs
      obtain ⟨-, -, hs⟩ := hs
      cases hs
      exact h.disconnect hok
  | leave sessionId =>
      simp only [Cluster.step] at hs
      split at hs
      case h_1 socket hprocess =>
        cases hs
        refine h.of_process (fun _ => id) (by rw [hprocess]; rfl) ?_ ?_
        · intro m hm
          cases hm
        · intro parcel _ _ m hm
          cases hm
      case h_2 => cases hs
  | handle k =>
      simp only [Cluster.step, Option.bind_eq_bind, Option.bind_eq_some_iff] at hs
      obtain ⟨parcel, hk, hs⟩ := hs
      cases hs
      exact h.handle hk (hok parcel hk)

end Guarding

/-- **Guarded disconnects stay in their matches**: in every run over any number of nodes, with
restarts, and in every order of delivery. -/
theorem apart_of_guarded {isBot : SessionId → Bool} {counters : NodeId → ℕ} {process : Process}
    {l : List ClusterEvent} {s : Cluster}
    (h : Run (Cluster.step isBot) Guarded (Cluster.start counters process) l s) :
    Run (Cluster.step isBot) Apart (Cluster.start counters process) l s :=
  h.exchange (I := Guarding) (fun _ _ _ hs hok hstep => ⟨hs.apart hok, hs.step hok hstep⟩)
    (Guarding.start counters process)

/-- The channel of a session, before it has been matched. -/
def freshChannel : Process := .channel ⟨"text", some "a", none, none, none, none⟩

/-- Two matches on two nodes, the first of which is ended by an administrator. -/
def endedInTime : List ClusterEvent :=
  [.pair 0 "b", .handle 0, .disconnect 0 "disconnected by administrator" none, .handle 0,
    .issue 1, .pair 1 "c", .handle 0, .disconnect 1 "partner skipped" (some "2"), .handle 0]

theorem endedInTime_apart : ∃ s,
    Run (Cluster.step fun _ => false) Guarded (Cluster.start (fun _ => 0) freshChannel)
      endedInTime s ∧
    Run (Cluster.step fun _ => false) Apart (Cluster.start (fun _ => 0) freshChannel)
      endedInTime s := by
  have hrun : (execWhere (Cluster.step fun _ => false) Guarded
      (Cluster.start (fun _ => 0) freshChannel) endedInTime).any (fun _ => true) = true := by
    decide +kernel
  obtain ⟨s, hs, -⟩ := exists_run_of_execWhere hrun
  exact ⟨s, hs, apart_of_guarded hs⟩

/-- An administrator ends a match, the client searches again and is matched, and the disconnect
arrives. -/
def endedLate : List ClusterEvent :=
  [.pair 0 "b", .handle 0, .disconnect 0 "disconnected by administrator" none, .leave (some "d"),
    .pair 0 "c", .handle 1, .handle 0]

/-- **A disconnect without a generation ends the match that has come after its own.** -/
theorem staleDisconnect_isActedOn : ¬ ∀ (isBot : SessionId → Bool) (counters : NodeId → ℕ)
    (process : Process) (l : List ClusterEvent) (s : Cluster),
    Run (Cluster.step isBot) Always (Cluster.start counters process) l s →
      Run (Cluster.step isBot) Apart (Cluster.start counters process) l s := by
  intro h
  have hrun : (execWhere (Cluster.step fun _ => false) Always
      (Cluster.start (fun _ => 0) freshChannel) endedLate).any (fun _ => true) = true := by
    decide +kernel
  obtain ⟨s, hs, -⟩ := exists_run_of_execWhere hrun
  have hnone : (execWhere (Cluster.step fun _ => false) Apart
      (Cluster.start (fun _ => 0) freshChannel) endedLate).isSome = false := by
    decide +kernel
  rw [execWhere_of_run (h _ _ _ _ s hs)] at hnone
  cases hnone

/-- Two nodes that count from their start give two matches of a session one generation. -/
example : (execWhere (Cluster.step fun _ => false) Apart
    (Cluster.start (fun _ => 0) freshChannel) [.pair 0 "b", .pair 1 "c"]).isSome = false := by
  decide +kernel

end Sockets
