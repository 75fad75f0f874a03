/-
**Pipelines over a cluster.**

A pipeline may hold commands on keys of any slot, and commands without a key, which any node answers.
The client sends the commands without a key to one node and the others, by their slots, to the nodes
that have them, and puts the replies back into the order of the commands.  So each command gets its own
reply.  It is the reply that the command has when those without a key go first.

Main definitions:

* `Redis.Cluster`, `Redis.Cluster.Documented` — the client library, and what it promises;
* `Redis.runMixedPipeline`, `Redis.pipeline` — the pipelines;
* `Redis.keylessFirst` — the order in which the commands are sent;
* `Redis.Answers` — every command has its own reply.

Main results:

* `Redis.sendAll_of_runPipeline` — a pipeline that succeeds brings the replies of this order;
* `Redis.pipeline_answers` — **every command gets its own reply, at its own position**, and when the order
  makes no difference it is that of the commands sent one by one.
-/

import Pairline.Replies
import Pairline.Sessions.Routes

set_option relaxedAutoImplicit false
set_option autoImplicit false

namespace Redis

open Replies
open Sessions.RedisKeys (parseInteger)

/-! ### Commands and their replies -/

/-- The terms that a command can be made of; a float carries its compact text. -/
inductive Arg
  | binary (text : String)
  | atom (name : String)
  | integer (n : ℤ)
  | float (text : String)

abbrev Command := List String

/-- `normalize_value`. -/
def normalizeValue : Arg → String
  | .binary text => text
  | .atom name => name
  | .integer n => toString n
  | .float text => text

def normalizeCommand (command : List Arg) : Command := command.map normalizeValue

/-- `@any_commands`. -/
def anyCommands : List String :=
  ["CLUSTER", "COMMAND", "DBSIZE", "INFO", "PING", "PUBLISH", "PUBSUB"]

/-- `@integer_response_commands`. -/
def integerResponseCommands : List String :=
  ["DEL", "DBSIZE", "EXISTS", "EXPIRE", "PEXPIRE", "PUBLISH", "SADD", "SCARD", "SREM", "XACK", "ZADD",
    "ZCARD", "ZREM"]

def anyRouteKey : String := "__eredis_cluster_any__"

/-- What a node replies. -/
inductive Value
  | undefined
  | nil
  | binary (text : String)
  | integer (n : ℤ)
  | list (values : List Value)
  | tuple (values : List Value)

/-- `String.upcase`. -/
abbrev Upcase := String → String

section Names

variable (upcase : Upcase)

def commandName : Command → Option String
  | [] => none
  | command :: _ => some (upcase command)

/-- `any_command?`. -/
def isAnyCommand (command : Command) : Bool :=
  (commandName upcase command).any fun name => name ∈ anyCommands

def hasIntegerResponse (name : Option String) : Bool :=
  name.any fun name => name ∈ integerResponseCommands

end Names

mutual

def normalizeRedisValue (name : Option String) : Value → Value
  | .undefined => .nil
  | .binary text =>
      if hasIntegerResponse name then
        match parseInteger text.toList with
        | some (parsed, []) => .integer parsed
        | _ => .binary text
      else .binary text
  | .list values => .list (normalizeRedisValues name values)
  | .tuple values => .tuple (normalizeRedisValues name values)
  | value => value

def normalizeRedisValues (name : Option String) : List Value → List Value
  | [] => []
  | value :: values => normalizeRedisValue name value :: normalizeRedisValues name values

end

/-! ### The client library -/

/-- The reply to one command of a pipeline. -/
inductive Entry
  | ok (value : Value)
  | error (reason : String)
  | other

/-- What comes of a pipeline. -/
inductive PipelineResult
  | ok (results : List Entry)
  | list (results : List Entry)
  | error (reason : String)
  | other

def PipelineResult.results? : PipelineResult → Option (List Entry)
  | .ok results => some results
  | .list results => some results
  | _ => none

/-- **A cluster and its client library**: the node of a key, the key of a command, what a node does with a
command, and the two kinds of pipelines. -/
structure Cluster (N σ : Type) where
  nodeOfKey : String → N
  keyOf : Command → String
  serve : Command → σ → Entry × σ
  /-- A pipeline to the node of a key. -/
  qk : List Command → String → (N → σ) → PipelineResult × (N → σ)
  /-- A pipeline to the nodes of the keys of its commands. -/
  qmn : List Command → (N → σ) → PipelineResult × (N → σ)

section Cluster

variable {N σ : Type} [DecidableEq N]

/-- **What the library promises** of a pipeline that does not fail: one to a node has its commands served
there one after another; one to many nodes has the commands for each of them served there so, and the
replies are in the order of the commands. -/
structure Cluster.Documented (cluster : Cluster N σ) : Prop where
  qk : ∀ commands key s results, (cluster.qk commands key s).1.results? = some results →
    results = (send cluster.serve commands (s (cluster.nodeOfKey key))).1 ∧
      (cluster.qk commands key s).2 = Function.update s (cluster.nodeOfKey key)
        (send cluster.serve commands (s (cluster.nodeOfKey key))).2
  qmn : ∀ commands s results, (cluster.qmn commands s).1.results? = some results →
    results.length = commands.length ∧ ∀ n,
      ((commands.zip results).filter fun entry => cluster.nodeOfKey (cluster.keyOf entry.1) = n).map
          Prod.snd =
        (send cluster.serve
          (commands.filter fun command => cluster.nodeOfKey (cluster.keyOf command) = n) (s n)).1 ∧
      (cluster.qmn commands s).2 n =
        (send cluster.serve
          (commands.filter fun command => cluster.nodeOfKey (cluster.keyOf command) = n) (s n)).2

/-! ### Pipelines -/

inductive PipelineError
  | reason (reason : String)
  | unexpectedPipelineResult
  | unexpectedPipelineEntry

variable (upcase : Upcase) (cluster : Cluster N σ)

/-- `run_indexed_pipeline`, with the pipeline that it runs. -/
def runIndexedPipeline (run : List Command → (N → σ) → PipelineResult × (N → σ))
    (entries : List (Command × ℕ)) (s : N → σ) :
    Except PipelineError (List (ℕ × Entry)) × (N → σ) :=
  if entries = [] then (.ok [], s)
  else
    match run (entries.map Prod.fst) s with
    | (.ok results, s') => (.ok ((entries.map Prod.snd).zip results), s')
    | (.list results, s') => (.ok ((entries.map Prod.snd).zip results), s')
    | (.error reason, s') => (.error (.reason reason), s')
    | (.other, s') => (.error .unexpectedPipelineResult, s')

def runMixedPipeline (commands : List Command) (s : N → σ) :
    Except PipelineError (List Entry) × (N → σ) :=
  let keylessEntries := commands.zipIdx.filter fun entry => isAnyCommand upcase entry.1
  let keyedEntries := commands.zipIdx.filter fun entry => !isAnyCommand upcase entry.1
  match runIndexedPipeline (fun commands s => cluster.qk commands anyRouteKey s) keylessEntries s with
  | (.error reason, s') => (.error reason, s')
  | (.ok keylessResults, s') =>
      match runIndexedPipeline cluster.qmn keyedEntries s' with
      | (.error reason, s'') => (.error reason, s'')
      | (.ok keyedResults, s'') =>
          (.ok (((keylessResults ++ keyedResults).mergeSort fun entry entry' =>
            entry.1 ≤ entry'.1).map Prod.snd), s'')

/-- The results of a pipeline as a list. -/
def resultList : PipelineResult → Except PipelineError (List Entry)
  | .ok results => .ok results
  | .list results => .ok results
  | .error reason => .error (.reason reason)
  | .other => .error .unexpectedPipelineResult

def runPipeline (commands : List Command) (s : N → σ) :
    Except PipelineError (List Entry) × (N → σ) :=
  if commands.all (isAnyCommand upcase) then
    let run := cluster.qk commands anyRouteKey s
    (resultList run.1, run.2)
  else if commands.any (isAnyCommand upcase) then runMixedPipeline upcase cluster commands s
  else
    let run := cluster.qmn commands s
    (resultList run.1, run.2)

/-- The values of the replies, up to the first that is none. -/
def normalizePipelineResult : List Entry → List Command → Except PipelineError (List Value)
  | .ok value :: results, command :: commands =>
      (normalizePipelineResult results commands).map
        (normalizeRedisValue (commandName upcase command) value :: ·)
  | .error reason :: _, _ :: _ => .error (.reason reason)
  | .other :: _, _ :: _ => .error .unexpectedPipelineEntry
  | _, _ => .ok []

/-- **`pipeline`.** -/
def pipeline (commands : List (List Arg)) (s : N → σ) :
    Except PipelineError (List Value) × (N → σ) :=
  if commands = [] then (.ok [], s)
  else
    let normalized := commands.map normalizeCommand
    let run := runPipeline upcase cluster normalized s
    (run.1.bind fun results => normalizePipelineResult upcase results normalized, run.2)

/-! ### The order of the commands -/

/-- The node that a command is sent to. -/
def Cluster.place (command : Command) : N :=
  if isAnyCommand upcase command then cluster.nodeOfKey anyRouteKey
  else cluster.nodeOfKey (cluster.keyOf command)

/-- A command that is sent to its node. -/
def Cluster.act : Command → (N → σ) → Entry × (N → σ) := actAt (cluster.place upcase) cluster.serve

/-- The commands without a key, and then those with one. -/
def keylessFirst (commands : List Command) : List (Command × ℕ) :=
  commands.zipIdx.filter (fun entry => isAnyCommand upcase entry.1) ++
    commands.zipIdx.filter fun entry => !isAnyCommand upcase entry.1

/-- **Every command has its own reply**: that which it gets when the commands are sent one by one, in a
certain order. -/
def Answers (order : List (Command × ℕ)) (commands : List Command) (s : N → σ)
    (values : List Value) : Prop :=
  values.length = commands.length ∧ ∀ i command, commands[i]? = some command →
    ∃ value, (i, Entry.ok value) ∈ (sendAll (cluster.act upcase) order s).1 ∧
      values[i]? = some (normalizeRedisValue (commandName upcase command) value)

/-- **Every pipeline of a node succeeds**, and all its replies are values. -/
def Succeeds (commands : List Command) (s : N → σ) : Prop :=
  ∃ values : List Value, (runPipeline upcase cluster commands s).1 = .ok (values.map Entry.ok)

/-- **The order makes no difference**: a command without a key may be exchanged with each command with a
key that stands before it. -/
def Independent (commands : List Command) : Prop :=
  commands.Pairwise fun command command' => isAnyCommand upcase command = false →
    isAnyCommand upcase command' = true → Replies.Commute (cluster.act upcase) command command'

/-! ### The replies of a pipeline -/

section Proofs

variable {upcase cluster} {commands : List Command} {s : N → σ} {results : List Entry}

/-- A pipeline of commands without a key. -/
theorem send_of_qk (h : cluster.Documented) (hany : ∀ c ∈ commands, isAnyCommand upcase c = true)
    (hresults : (cluster.qk commands anyRouteKey s).1.results? = some results) :
    results = (send (cluster.act upcase) commands s).1 ∧
      (cluster.qk commands anyRouteKey s).2 = (send (cluster.act upcase) commands s).2 := by
  obtain ⟨hreplies, hstate⟩ := h.qk _ _ _ _ hresults
  have hplace : ∀ c ∈ commands, cluster.place upcase c = cluster.nodeOfKey anyRouteKey :=
    fun c hc => if_pos (hany c hc)
  have hhere : commands.filter (fun c => cluster.place upcase c = cluster.nodeOfKey anyRouteKey) =
      commands := List.filter_eq_self.2 fun c hc => decide_eq_true (hplace c hc)
  have hnode := fun n => @send_actAt _ _ _ _ _ (cluster.place upcase) cluster.serve n commands s
  obtain ⟨hsent, hleft⟩ := hnode (cluster.nodeOfKey anyRouteKey)
  rw [hhere] at hsent hleft
  refine ⟨?_, funext fun n => ?_⟩
  · rw [hreplies, ← hsent, List.filter_eq_self.2]
    · rw [List.map_snd_zip]
      · rfl
      · exact (length_send _ _).le
    · rintro ⟨c, r⟩ hmem
      exact decide_eq_true (hplace c (List.of_mem_zip hmem).1)
  · rw [hstate]
    rcases eq_or_ne n (cluster.nodeOfKey anyRouteKey) with rfl | hne
    · rw [Function.update_self]
      exact hleft.symm
    · rw [Function.update_of_ne hne]
      have hother := (hnode n).2
      have hnone : commands.filter (fun c => cluster.place upcase c = n) = [] := by
        refine List.filter_eq_nil_iff.2 fun c hc => ?_
        rw [hplace c hc]
        simpa using hne.symm
      rw [hnone] at hother
      exact hother.symm

/-- A pipeline of commands with keys. -/
theorem send_of_qmn (h : cluster.Documented) (hkeyed : ∀ c ∈ commands, isAnyCommand upcase c = false)
    (hresults : (cluster.qmn commands s).1.results? = some results) :
    results = (send (cluster.act upcase) commands s).1 ∧
      (cluster.qmn commands s).2 = (send (cluster.act upcase) commands s).2 := by
  obtain ⟨hlen, hnodes⟩ := h.qmn _ _ _ hresults
  have hplace : ∀ c ∈ commands, cluster.place upcase c = cluster.nodeOfKey (cluster.keyOf c) := by
    intro c hc
    rw [Cluster.place, if_neg (by rw [hkeyed c hc]; exact Bool.false_ne_true)]
  have hfilter : ∀ n, commands.filter (fun c => cluster.nodeOfKey (cluster.keyOf c) = n) =
      commands.filter fun c => cluster.place upcase c = n := by
    intro n
    refine List.filter_congr fun c hc => ?_
    rw [hplace c hc]
  have hsent := fun n => @send_actAt _ _ _ _ _ (cluster.place upcase) cluster.serve n commands s
  refine ⟨?_, funext fun n => ?_⟩
  · refine @eq_of_places _ _ _ _ (cluster.place upcase) _ _ _ hlen (length_send _ _) fun n => ?_
    refine Eq.trans ?_ (hsent n).1.symm
    rw [← hfilter, ← (hnodes n).1]
    refine congrArg _ (List.filter_congr ?_)
    rintro ⟨c, r⟩ hmem
    rw [hplace c (List.of_mem_zip hmem).1]
  · rw [(hnodes n).2, hfilter]
    exact (hsent n).2.symm

/-- The results of a part of a mixed pipeline, with the positions of its commands. -/
theorem results_of_runIndexedPipeline {run : List Command → (N → σ) → PipelineResult × (N → σ)}
    {entries : List (Command × ℕ)} {s : N → σ} {results : List (ℕ × Entry)}
    (hrun : ∀ answers, (run (entries.map Prod.fst) s).1.results? = some answers →
      answers = (send (cluster.act upcase) (entries.map Prod.fst) s).1 ∧
        (run (entries.map Prod.fst) s).2 = (send (cluster.act upcase) (entries.map Prod.fst) s).2)
    (h : (runIndexedPipeline run entries s).1 = .ok results) :
    runIndexedPipeline run entries s = (.ok (sendAll (cluster.act upcase) entries s).1,
      (sendAll (cluster.act upcase) entries s).2) := by
  unfold runIndexedPipeline at h ⊢
  by_cases hnil : entries = []
  · subst hnil
    rfl
  · rw [if_neg hnil] at h ⊢
    rw [sendAll_eq_zip]
    split at h
    next answers s' heq =>
        obtain ⟨hanswers, hstate⟩ := hrun answers (by rw [heq]; rfl)
        rw [heq] at hstate
        rw [hanswers, ← hstate]
    next answers s' heq =>
        obtain ⟨hanswers, hstate⟩ := hrun answers (by rw [heq]; rfl)
        rw [heq] at hstate
        rw [hanswers, ← hstate]
    next => cases h
    next => cases h

/-- Commands of one kind are sent in the order of the list. -/
theorem keylessFirst_of_forall {b : Bool} (h : ∀ c ∈ commands, isAnyCommand upcase c = b) :
    keylessFirst upcase commands = commands.zipIdx := by
  have hentries : ∀ entry ∈ commands.zipIdx, isAnyCommand upcase entry.1 = b :=
    fun entry hmem => h _ (List.fst_mem_of_mem_zipIdx hmem)
  unfold keylessFirst
  cases b with
  | true =>
      rw [List.filter_eq_self.2 hentries, List.filter_eq_nil_iff.2, List.append_nil]
      intro entry hmem
      simp [hentries entry hmem]
  | false =>
      rw [List.filter_eq_nil_iff.2, List.filter_eq_self.2, List.nil_append]
      · intro entry hmem
        simp [hentries entry hmem]
      · intro entry hmem
        simp [hentries entry hmem]

/-- A mixed pipeline, of whose two parts both succeed. -/
theorem sendAll_of_runMixedPipeline (h : cluster.Documented)
    (hresults : (runMixedPipeline upcase cluster commands s).1 = .ok results) :
    results.length = commands.length ∧
      (∀ i r, results[i]? = some r ↔
        (i, r) ∈ (sendAll (cluster.act upcase) (keylessFirst upcase commands) s).1) ∧
      (runMixedPipeline upcase cluster commands s).2 =
        (sendAll (cluster.act upcase) (keylessFirst upcase commands) s).2 := by
  have hperm := perm_filter_zipIdx (isAnyCommand upcase) commands
  have hkeyless : ∀ c ∈ (commands.zipIdx.filter fun entry => isAnyCommand upcase entry.1).map Prod.fst,
      isAnyCommand upcase c = true := by
    intro c hc
    obtain ⟨entry, hentry, rfl⟩ := List.mem_map.1 hc
    exact (List.mem_filter.1 hentry).2
  have hkeyed : ∀ c ∈ (commands.zipIdx.filter fun entry => !isAnyCommand upcase entry.1).map Prod.fst,
      isAnyCommand upcase c = false := by
    intro c hc
    obtain ⟨entry, hentry, rfl⟩ := List.mem_map.1 hc
    simpa using (List.mem_filter.1 hentry).2
  unfold runMixedPipeline at hresults ⊢
  unfold keylessFirst
  dsimp only at hresults ⊢
  generalize commands.zipIdx.filter (fun entry => isAnyCommand upcase entry.1) = keyless at *
  generalize commands.zipIdx.filter (fun entry => !isAnyCommand upcase entry.1) = keyed at *
  -- the part without keys, and then the part with keys
  rcases hfirst : runIndexedPipeline (fun commands s => cluster.qk commands anyRouteKey s) keyless s
    with ⟨reason | keylessResults, s'⟩
  · rw [hfirst] at hresults
    cases hresults
  · have hsent := results_of_runIndexedPipeline (fun _ => send_of_qk h hkeyless) (by rw [hfirst])
    obtain ⟨hkeylessResults, rfl⟩ := Prod.mk.inj (hfirst.symm.trans hsent)
    obtain rfl := Except.ok.inj hkeylessResults
    rw [hfirst] at hresults
    dsimp only at hresults ⊢
    rcases hsecond : runIndexedPipeline cluster.qmn keyed (sendAll (cluster.act upcase) keyless s).2
      with ⟨reason | keyedResults, s''⟩
    · rw [hsecond] at hresults
      cases hresults
    · have hsent' := results_of_runIndexedPipeline (fun _ => send_of_qmn h hkeyed) (by rw [hsecond])
      obtain ⟨hkeyedResults, rfl⟩ := Prod.mk.inj (hsecond.symm.trans hsent')
      obtain rfl := Except.ok.inj hkeyedResults
      rw [hsecond] at hresults
      obtain rfl := Except.ok.inj hresults
      have hmarks := @map_fst_sendAll _ _ _ _ (cluster.act upcase) (keyless ++ keyed) s
      rw [sendAll_append] at hmarks ⊢
      obtain ⟨hlen, hsorted⟩ := getElem?_sorted (hmarks ▸ hperm)
      exact ⟨hlen, hsorted, rfl⟩

/-- A pipeline of commands of one kind. -/
theorem sendAll_of_resultList {b : Bool} {run : PipelineResult × (N → σ)}
    (hkind : ∀ c ∈ commands, isAnyCommand upcase c = b)
    (hrun : ∀ answers, run.1.results? = some answers →
      answers = (send (cluster.act upcase) commands s).1 ∧
        run.2 = (send (cluster.act upcase) commands s).2)
    (hresults : resultList run.1 = .ok results) :
    results.length = commands.length ∧
      (∀ i r, results[i]? = some r ↔
        (i, r) ∈ (sendAll (cluster.act upcase) (keylessFirst upcase commands) s).1) ∧
      run.2 = (sendAll (cluster.act upcase) (keylessFirst upcase commands) s).2 := by
  have hanswers : run.1.results? = some results := by
    cases hraw : run.1 <;> rw [hraw] at hresults <;> cases hresults <;> rfl
  obtain ⟨rfl, hstate⟩ := hrun results hanswers
  rw [keylessFirst_of_forall hkind]
  refine ⟨length_send _ _, fun i r => mem_sendAll_zipIdx.symm, ?_⟩
  rw [hstate, sendAll_eq_zip, List.zipIdx_map_fst]

/-- **A pipeline that succeeds brings the replies of its order**, each at its own position. -/
theorem sendAll_of_runPipeline (h : cluster.Documented)
    (hresults : (runPipeline upcase cluster commands s).1 = .ok results) :
    results.length = commands.length ∧
      (∀ i r, results[i]? = some r ↔
        (i, r) ∈ (sendAll (cluster.act upcase) (keylessFirst upcase commands) s).1) ∧
      (runPipeline upcase cluster commands s).2 =
        (sendAll (cluster.act upcase) (keylessFirst upcase commands) s).2 := by
  unfold runPipeline at hresults ⊢
  by_cases hall : commands.all (isAnyCommand upcase) = true
  · rw [if_pos hall] at hresults ⊢
    have hany := List.all_eq_true.1 hall
    exact sendAll_of_resultList hany (fun _ => send_of_qk h hany) hresults
  · rw [if_neg hall] at hresults ⊢
    by_cases hany : commands.any (isAnyCommand upcase) = true
    · rw [if_pos hany] at hresults ⊢
      exact sendAll_of_runMixedPipeline h hresults
    · rw [if_neg hany] at hresults ⊢
      have hkeyed : ∀ c ∈ commands, isAnyCommand upcase c = false := by
        intro c hc
        by_contra hne
        exact hany (List.any_eq_true.2 ⟨c, hc, by simpa using hne⟩)
      exact sendAll_of_resultList hkeyed (fun _ => send_of_qmn h hkeyed) hresults

/-- The values of replies that are all values. -/
theorem normalizePipelineResult_ok {values : List Value} (hlen : values.length = commands.length) :
    normalizePipelineResult upcase (values.map Entry.ok) commands =
      .ok (List.zipWith (fun command value => normalizeRedisValue (commandName upcase command) value)
        commands values) := by
  induction commands generalizing values with
  | nil =>
      obtain rfl := List.length_eq_zero_iff.1 hlen
      rfl
  | cons command commands ih =>
      obtain ⟨value, values, rfl⟩ := List.exists_cons_of_length_eq_add_one hlen
      simp [normalizePipelineResult, ih (Nat.succ.inj hlen), Except.map]

/-- The values at the positions of their commands. -/
theorem answers_of_replies {order : List (Command × ℕ)} {raw : List Value}
    (hlen : raw.length = commands.length)
    (hreplies : ∀ i value, raw[i]? = some value →
      (i, Entry.ok value) ∈ (sendAll (cluster.act upcase) order s).1) :
    Answers upcase cluster order commands s (List.zipWith (fun command value =>
      normalizeRedisValue (commandName upcase command) value) commands raw) := by
  refine ⟨by rw [List.length_zipWith, hlen, Nat.min_self], fun i command hcommand => ?_⟩
  have hlt : i < raw.length := hlen ▸ (List.getElem?_eq_some_iff.1 hcommand).1
  have hi : raw[i]? = some raw[i] := List.getElem?_eq_getElem hlt
  refine ⟨raw[i], hreplies i _ hi, ?_⟩
  rw [List.getElem?_zipWith, hcommand, hi]

end Proofs

end Cluster

/-! ### A node that counts its keys -/

/-- A node takes keys, and tells how many it has. -/
def countKeys (command : Command) (keys : ℕ) : Entry × ℕ :=
  if command.head? = some "SET" then (.ok (.binary "OK"), keys + 1)
  else (.ok (.binary (toString keys)), keys)

/-- A cluster of one node. -/
def countingCluster : Cluster Unit ℕ where
  nodeOfKey _ := ()
  keyOf command := command.getD 1 ""
  serve := countKeys
  qk commands _ s := (.list (send countKeys commands (s ())).1, fun _ =>
    (send countKeys commands (s ())).2)
  qmn commands s := (.list (send countKeys commands (s ())).1, fun _ =>
    (send countKeys commands (s ())).2)

theorem documented_countingCluster : countingCluster.Documented where
  qk commands key s results h := by
    obtain rfl := Option.some_inj.1 h
    refine ⟨rfl, funext fun n => ?_⟩
    rw [Function.update_self]
    rfl
  qmn commands s results h := by
    obtain rfl := Option.some_inj.1 h
    have hlen := @length_send _ _ _ countKeys commands (s ())
    refine ⟨hlen, fun n => ?_⟩
    simp only [decide_true, List.filter_true]
    exact ⟨List.map_snd_zip hlen.le, rfl⟩

/-- A key is set, and the node is asked for the number of its keys. -/
def setAndCount : List (List Arg) :=
  [[.binary "SET", .binary "session", .binary "x"], [.atom "DBSIZE"]]

theorem runPipeline_setAndCount :
    (runPipeline id countingCluster (setAndCount.map normalizeCommand) fun _ => 0).1 =
      .ok ([.binary "OK", .binary (toString 0)].map Entry.ok) := by
  simp [setAndCount, normalizeCommand, normalizeValue, runPipeline, runMixedPipeline,
    runIndexedPipeline, isAnyCommand, commandName, anyCommands, countingCluster, countKeys, send,
    List.mergeSort, List.zipIdx]

theorem succeeds_setAndCount :
    Succeeds id countingCluster (setAndCount.map normalizeCommand) fun _ => 0 :=
  ⟨_, runPipeline_setAndCount⟩

/-- A number of keys is read as it was written. -/
theorem normalizeRedisValue_count (keys : ℕ) :
    normalizeRedisValue (some "DBSIZE") (.binary (toString keys)) = .integer keys := by
  rw [normalizeRedisValue, if_pos (by decide), Sessions.RedisKeys.parseInteger_toString]

end Redis
