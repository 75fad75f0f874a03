/-
**The evidence that a decision of automation rests on.**

The chat log of a report holds messages of the reported user and of the reporter.  The worker gathers
those of each side that are not blank and has a model look at them.  Some adapters let the model assess
one side at a time; then a side without messages is not assessed.  Others have it assess both sides in
one call, which is made when either side has messages; then only the reporter's part of the answer is
looked at with the reporter's messages in mind.

Main definitions:

* `Automod.extractEvidence` — the messages of one side;
* `Automod.Adapter`, `Automod.parseNativeDualAssessment` — what is asked of a model and how its
  answer is read;
* `Automod.Moderator.assess`, `Automod.Moderator.processSingleReport` — **a worker's way from the
  report to its decision**;
* `Automod.Grounded` — no verdict on a side without a message of it;
* `Automod.Unguarded` — the model assesses both sides, only the reporter has messages, and the answer
  classifies the reported user.

Main results:

* `Automod.extractEvidence_eq_nil_iff` — no evidence is no message that is not blank;
* `Automod.isSafety_of_parseNativeDualAssessment` — an answer of a guard model that is read at all
  classifies both sides;
* `Automod.exists_decides_iff` — a worker bans, or decides, exactly when the assessment comes to that;
* `Automod.grounded_iff` — **the worker keeps to the evidence exactly when it is not unguarded**;
* `Automod.Grounded.foldl_apply` — then the report is as it was, and so are the bans;
* `Automod.guard_bansOnNothing` — a model's answer about nothing bans the reported user.
-/

import Pairline.Automod.Worker
import Pairline.Whitespace

set_option relaxedAutoImplicit false
set_option autoImplicit false

namespace Automod

open Program Whitespace

/-! ### Evidence -/

structure ChatLogMessage where
  text : String
  sender : String

structure Report where
  reason : String
  chatLog : String
  reportedSessionID : String
  reportedIP : String
  reporterSessionID : String
  reporterIP : String

/-- A text is empty, but for white space. -/
@[irreducible] def isBlank (text : String) : Bool := trim text = ""

/-- The report names a session or an address of the reported user. -/
def Report.hasTarget (report : Report) : Bool :=
  ¬ isBlank report.reportedSessionID ∨ ¬ isBlank report.reportedIP

def truncateForDB (input : List UInt8) (maxLen : ℕ) : List UInt8 :=
  if maxLen = 0 ∨ input.length ≤ maxLen then input else input.take maxLen

def safePromptText (input : String) : List UInt8 :=
  let cleaned := input.map fun c => if c = '\r' ∨ c = '\n' then ' ' else c
  truncateForDB (trim cleaned).toUTF8.toList 4000

/-- The messages of a chat log; `unmarshal` decodes a JSON text. -/
def chatLogMessages (unmarshal : String → Option (List ChatLogMessage)) (raw : String) :
    List ChatLogMessage :=
  if isBlank raw ∨ trim raw = "[]" then [] else (unmarshal (trim raw)).getD []

/-- **The messages of one side that are not blank**, a line for each. -/
@[irreducible] def extractEvidence (unmarshal : String → Option (List ChatLogMessage)) (raw senderFilter : String) :
    List (List UInt8) :=
  ((chatLogMessages unmarshal raw).filter fun msg =>
      msg.sender = senderFilter ∧ ¬ isBlank msg.text).map
    fun msg => "- ".toUTF8.toList ++ safePromptText (trim msg.text)

/-- The text that the lines make. -/
def joinLines (lines : List (List UInt8)) : List UInt8 := List.intercalate "\n".toUTF8.toList lines

/-- **There is no message of a side that is not blank.** -/
def Silent (unmarshal : String → Option (List ChatLogMessage)) (report : Report) (sender : String) :
    Prop :=
  ∀ msg ∈ chatLogMessages unmarshal report.chatLog, msg.sender = sender → isBlank msg.text

instance (unmarshal : String → Option (List ChatLogMessage)) (report : Report) (sender : String) :
    Decidable (Silent unmarshal report sender) := by unfold Silent; infer_instance

/-- **No evidence is no message that is not blank.** -/
theorem extractEvidence_eq_nil_iff {unmarshal : String → Option (List ChatLogMessage)}
    {report : Report} {sender : String} :
    extractEvidence unmarshal report.chatLog sender = [] ↔ Silent unmarshal report sender := by
  simp only [extractEvidence, List.map_eq_nil_iff, List.filter_eq_nil_iff, decide_eq_true_eq,
    not_and, not_not]
  rfl

/-! ### Adapters -/

inductive AssessmentError
  | baseURLEmpty
  | missingAPIKey
  | unsupportedModel
  | canceled
  | deadlineExceeded
  | missingChoices
  /-- The model's service has replied with an error. -/
  | api (statusCode : ℕ)
  | other
  deriving DecidableEq

def AssessmentError.isRetryable : AssessmentError → Bool
  | .baseURLEmpty | .missingAPIKey | .unsupportedModel | .canceled => false
  | .api statusCode => statusCode ≠ 400 ∧ statusCode ≠ 401 ∧ statusCode ≠ 403 ∧ statusCode ≠ 422
  | _ => true

structure Assessment where
  userSafety : String
  responseSafety : String
  deriving DecidableEq

structure DualAssessment where
  reportedUser : Assessment
  reporter : Assessment

structure CoreMessage where
  role : String
  content : List UInt8
  deriving DecidableEq

/-- What an adapter offers that assesses both sides in one call. -/
structure DualAssessmentAdapter where
  buildDualMessages : Report → List UInt8 → List UInt8 → List CoreMessage
  parseDualAssessment : String → Except AssessmentError DualAssessment

structure Adapter where
  supports : String → Bool
  buildPrompt : Report → List UInt8 → List UInt8
  parseAssessment : String → Except AssessmentError Assessment
  dual : Option DualAssessmentAdapter

/-- From the first opening brace to the last closing one. -/
def extractJSONObject (raw : String) : Except AssessmentError String :=
  match (raw.toList.dropWhile (· ≠ '\x7b')).rdropWhile (· ≠ '\x7d') with
  | [] => .error .other
  | c :: body => .ok (String.ofList (c :: body))

/-- The fields that are read off the answer of a guard model. -/
structure NativeResult where
  userSafety : String
  responseSafety : String

/-- The lower case of a character, as far as that is an ASCII character: what is compared with it is
ASCII text. -/
def lowerASCII (c : Char) : Char :=
  if c = '\u0130' then 'i' else if c = '\u212a' then 'k' else c.toLower

def normalizeSafety (value : String) : String := (trim value).map lowerASCII

def isSafety (value : String) : Bool := value = "safe" || value = "unsafe"

/-- `BuildNativeDualMessages`. -/
def buildNativeDualMessages (reportedEvidence reporterEvidence : List UInt8) : List CoreMessage :=
  let content (evidence : List UInt8) :=
    if evidence = [] then "No messages provided".toUTF8.toList else evidence
  [⟨"user", content reportedEvidence⟩, ⟨"assistant", content reporterEvidence⟩]

section Native

variable (unmarshal : String → Option NativeResult)

def parseNative (raw : String) : Except AssessmentError NativeResult :=
  (extractJSONObject raw).bind fun jsonBody =>
    match unmarshal jsonBody with
    | none => .error .other
    | some parsed => .ok ⟨normalizeSafety parsed.userSafety, normalizeSafety parsed.responseSafety⟩

def parseJSONSafetyAssessment (raw : String) : Except AssessmentError Assessment :=
  (parseNative unmarshal raw).bind fun result =>
    if isSafety result.userSafety then .ok ⟨result.userSafety, result.responseSafety⟩
    else .error .other

def parseNativeDualAssessment (raw : String) : Except AssessmentError DualAssessment :=
  (parseNative unmarshal raw).bind fun result =>
    if ¬ isSafety result.userSafety then .error .other
    else if ¬ isSafety result.responseSafety then .error .other
    else .ok ⟨⟨result.userSafety, ""⟩, ⟨result.responseSafety, ""⟩⟩

/-- **An adapter of the guard models**, which assess the user and the assistant of a conversation. -/
def guardAdapter (modelID : String) (buildPrompt : Report → List UInt8 → List UInt8) : Adapter where
  supports model := (trim model).map lowerASCII = modelID
  buildPrompt := buildPrompt
  parseAssessment := parseJSONSafetyAssessment unmarshal
  dual := some ⟨fun _ => buildNativeDualMessages, parseNativeDualAssessment unmarshal⟩

/-- **A guard model's answer that is read at all classifies both sides.** -/
theorem isSafety_of_parseNativeDualAssessment {raw : String} {assessment : DualAssessment}
    (h : parseNativeDualAssessment unmarshal raw = .ok assessment) :
    isSafety assessment.reportedUser.userSafety = true ∧
      isSafety assessment.reporter.userSafety = true := by
  unfold parseNativeDualAssessment at h
  cases hresult : parseNative unmarshal raw with
  | error e =>
      rw [hresult] at h
      cases h
  | ok result =>
      rw [hresult] at h
      simp only [Except.bind] at h
      split_ifs at h with huser hresponse
      obtain rfl := Except.ok.inj h
      exact ⟨huser, hresponse⟩

end Native

/-! ### The worker -/

/-- Whose messages a model is asked about. -/
inductive Subject
  | both
  | reported
  | reporter
  deriving DecidableEq

/-- What the worker asks for before it decides. -/
inductive Inquiry
  | complete (subject : Subject) (messages : List CoreMessage)
  /-- `CreateOrRefreshBan` for the reporter. -/
  | banReporter
  deriving DecidableEq

abbrev Inquiry.Reply : Inquiry → Type
  | .complete _ _ => Except AssessmentError String
  | .banReporter => Unit

abbrev Assessing (α : Type) := Program (Sum.elim Cmd.Reply Inquiry.Reply) StoreError α

/-- A worker with its configuration. -/
structure Moderator where
  baseURL : String
  modelType : String
  registeredAdapters : List Adapter
  /-- The decoder of chat logs. -/
  unmarshal : String → Option (List ChatLogMessage)

def determineDecision (assessment : Assessment) : Decision :=
  if assessment.userSafety = "unsafe" then .approved
  else if assessment.userSafety = "safe" then .rejected
  else .escalate

def silentBanReporter (report : Report) : Assessing Unit :=
  if isBlank report.reporterSessionID ∧ isBlank report.reporterIP then .ret ()
  else .call (.inr .banReporter) fun _ => .ret ()

/-- A call of the model that is not answered has failed. -/
def received : Except StoreError (Except AssessmentError String) → Except AssessmentError String
  | .ok response => response
  | .error _ => .error .other

namespace Moderator

variable (w : Moderator) (report : Report)

/-- `Resolve`. -/
def resolve : Option Adapter := w.registeredAdapters.find? fun adapter => adapter.supports w.modelType

def peerEvidence : List (List UInt8) := extractEvidence w.unmarshal report.chatLog "peer"

def reporterEvidence : List (List UInt8) := extractEvidence w.unmarshal report.chatLog "me"

def callModelAPI (subject : Subject) (messages : List CoreMessage) :
    Assessing (Except AssessmentError String) :=
  if isBlank w.baseURL then .ret (.error .baseURLEmpty)
  else .call (.inr (.complete subject messages)) fun response => .ret (received response)

def assessReport (adapter : Adapter) (subject : Subject) (evidence : List (List UInt8)) :
    Assessing (Except AssessmentError Assessment) :=
  (w.callModelAPI subject [⟨"user", adapter.buildPrompt report (joinLines evidence)⟩]).bind
    fun response => .ret (response.bind adapter.parseAssessment)

def afterDual : Except AssessmentError DualAssessment → Assessing Verdict
  | .error e => .ret (.failed e.isRetryable)
  | .ok assessment =>
      (if w.reporterEvidence report ≠ [] ∧ assessment.reporter.userSafety = "unsafe" then
        silentBanReporter report
      else .ret ()).bind fun _ => .ret (.decided (determineDecision assessment.reportedUser))

/-- The messages of the call about both sides. -/
def dualMessages (dual : DualAssessmentAdapter) : List CoreMessage :=
  dual.buildDualMessages report (joinLines (w.peerEvidence report))
    (joinLines (w.reporterEvidence report))

/-- Both sides are assessed in one call. -/
def assessBoth (dual : DualAssessmentAdapter) : Assessing Verdict :=
  (w.callModelAPI .both (w.dualMessages report dual)).bind fun response =>
    w.afterDual report (response.bind dual.parseDualAssessment)

def assessReported (adapter : Adapter) : Assessing Verdict :=
  if w.peerEvidence report = [] then .ret (.decided .escalate)
  else (w.assessReport report adapter .reported (w.peerEvidence report)).bind fun
    | .error e => .ret (.failed e.isRetryable)
    | .ok assessment => .ret (.decided (determineDecision assessment))

/-- An error is only logged. -/
def assessReporter (adapter : Adapter) : Assessing Unit :=
  if w.reporterEvidence report = [] then .ret ()
  else (w.assessReport report adapter .reporter (w.reporterEvidence report)).bind fun
    | .error _ => .ret ()
    | .ok assessment =>
        if assessment.userSafety = "unsafe" then silentBanReporter report else .ret ()

/-- The sides are assessed one after the other. -/
def assessSingly (adapter : Adapter) : Assessing Verdict :=
  (w.assessReported report adapter).bind fun
    | .failed retryable => .ret (.failed retryable)
    | .decided decision => (w.assessReporter report adapter).bind fun _ => .ret (.decided decision)

/-- **What the assessment of a report comes to.** -/
def assess : Assessing Verdict :=
  match w.resolve with
  | none => .ret (.failed false)
  | some adapter =>
      match adapter.dual with
      | none => w.assessSingly report adapter
      | some dual =>
          if w.peerEvidence report ≠ [] ∨ w.reporterEvidence report ≠ [] then w.assessBoth report dual
          else w.assessSingly report adapter

/-- **A worker's way from the report to its decision.** -/
def processSingleReport : Assessing Unit :=
  (w.assess report).bind fun verdict => (Automod.processSingleReport report.hasTarget verdict).left

end Moderator

/-! ### The law -/

/-- The command bans the reported user or writes a verdict on the report. -/
def Cmd.Decides : Cmd → Prop
  | .createBan | .updateStatus _ => True
  | .review decision _ | .overwrite decision _ => decision ≠ .escalate
  | _ => False

instance : (c : Cmd) → Decidable c.Decides
  | .createBan | .updateStatus _ => .isTrue trivial
  | .review decision _ | .overwrite decision _ =>
      inferInstanceAs (Decidable (decision ≠ .escalate))
  | .propagateBan _ | .markFailed _ | .deleteBan _ | .propagateUnban _ | .read | .clearBanId =>
      .isFalse id

/-- **No verdict on a side without a message of it**: without one of the reported user there is no
ban and no verdict, and the report is left to a human or has failed; without one of the reporter, the
reporter is not banned. -/
structure Grounded (unmarshal : String → Option (List ChatLogMessage)) (report : Report)
    (issued : List (Cmd ⊕ Inquiry)) : Prop where
  reported : Silent unmarshal report "peer" → (∀ c, .inl c ∈ issued → ¬ c.Decides) ∧
    (.inl (.overwrite .escalate none) ∈ issued ∨ ∃ retryable, .inl (.markFailed retryable) ∈ issued)
  reporter : Silent unmarshal report "me" → .inr .banReporter ∉ issued

/-- **The model assesses both sides, only the reporter has messages, and the answer classifies the
reported user.** -/
def Unguarded (w : Moderator) (report : Report)
    (answer : (c : Cmd ⊕ Inquiry) → Except StoreError (Sum.elim Cmd.Reply Inquiry.Reply c)) : Prop :=
  Silent w.unmarshal report "peer" ∧ ¬ Silent w.unmarshal report "me" ∧ ¬ isBlank w.baseURL ∧
    ∃ adapter ∈ w.resolve, ∃ dual ∈ adapter.dual, ∃ raw,
      answer (.inr (.complete .both (w.dualMessages report dual))) = .ok (.ok raw) ∧
        ∃ assessment, dual.parseDualAssessment raw = .ok assessment ∧
          isSafety assessment.reportedUser.userSafety = true

/-! ### What the worker issues -/

section Issued

variable {answer : (c : Cmd) → Except StoreError c.Reply}

/-- **A worker bans, or writes a verdict, exactly when the assessment comes to one.** -/
theorem exists_decides_iff {hasTarget : Bool} {verdict : Verdict} :
    (∃ c ∈ (processSingleReport hasTarget verdict).asked answer, c.Decides) ↔
      verdict = .decided .approved ∨ verdict = .decided .rejected := by
  cases verdict with
  | failed retryable => simp [processSingleReport, markFailure, Cmd.Decides]
  | decided decision =>
      cases decision with
      | approved =>
          refine iff_of_true ?_ (.inl rfl)
          -- the ban comes first, where there is somebody to ban
          cases hasTarget with
          | true => exact ⟨.createBan, List.mem_cons_self, trivial⟩
          | false => exact ⟨.review .approved none, List.mem_cons_self, by decide⟩
      | rejected =>
          exact iff_of_true ⟨.review .rejected none, List.mem_cons_self, by decide⟩ (.inr rfl)
      | escalate => simp [processSingleReport, Automod.escalate, Cmd.Decides]

/-- Otherwise it leaves the report to a human, or notes that it has failed. -/
theorem leaves_of_not_decides {hasTarget : Bool} {verdict : Verdict}
    (happroved : verdict ≠ .decided .approved) (hrejected : verdict ≠ .decided .rejected) :
    .overwrite .escalate none ∈ (processSingleReport hasTarget verdict).asked answer ∨
      ∃ retryable, .markFailed retryable ∈ (processSingleReport hasTarget verdict).asked answer := by
  cases verdict with
  | failed retryable => exact .inr ⟨retryable, List.mem_cons_self⟩
  | decided decision =>
      cases decision with
      | approved => exact absurd rfl happroved
      | rejected => exact absurd rfl hrejected
      | escalate => exact .inl List.mem_cons_self

end Issued

theorem determineDecision_eq_approved {assessment : Assessment} :
    determineDecision assessment = .approved ↔ assessment.userSafety = "unsafe" := by
  unfold determineDecision
  split_ifs with hviolation hsafe <;> simp [hviolation]

theorem determineDecision_eq_rejected {assessment : Assessment} :
    determineDecision assessment = .rejected ↔ assessment.userSafety = "safe" := by
  unfold determineDecision
  split_ifs with hviolation hsafe
  · simp [hviolation]
  · simp [hsafe]
  · simp [hsafe]

/-- Only an answer that classifies a user leads to a verdict. -/
theorem determineDecision_iff {assessment : Assessment} :
    determineDecision assessment = .approved ∨ determineDecision assessment = .rejected ↔
      isSafety assessment.userSafety = true := by
  rw [determineDecision_eq_approved, determineDecision_eq_rejected, or_comm]
  simp [isSafety]

namespace Moderator

variable {w : Moderator} {report : Report}
  {answer : (c : Cmd ⊕ Inquiry) → Except StoreError (Sum.elim Cmd.Reply Inquiry.Reply c)}

/-! #### Inquiries only -/

/-- While the worker assesses the report it only inquires; and it may ban the reporter only if that
is allowed. -/
def Inquires (ban : Prop) : Cmd ⊕ Inquiry → Prop
  | .inl _ => False
  | .inr .banReporter => ban
  | .inr (.complete _ _) => True

theorem silentBanReporter_inquires {ban : Prop} (h : ban) :
    (silentBanReporter report).All (Inquires ban) := by
  unfold silentBanReporter
  split_ifs
  · exact trivial
  · exact ⟨h, fun _ => trivial⟩

theorem callModelAPI_inquires {ban : Prop} (subject : Subject) (messages : List CoreMessage) :
    (w.callModelAPI subject messages).All (Inquires ban) := by
  unfold callModelAPI
  split_ifs
  · exact trivial
  · exact ⟨trivial, fun _ => trivial⟩

theorem assessReport_inquires {ban : Prop} (adapter : Adapter) (subject : Subject)
    (evidence : List (List UInt8)) :
    (w.assessReport report adapter subject evidence).All (Inquires ban) := by
  unfold assessReport
  exact (callModelAPI_inquires _ _).bind fun _ => trivial

section Ban

variable {ban : Prop} (hban : w.reporterEvidence report ≠ [] → ban)
include hban

theorem assessBoth_inquires (dual : DualAssessmentAdapter) :
    (w.assessBoth report dual).All (Inquires ban) := by
  unfold assessBoth
  refine (callModelAPI_inquires _ _).bind fun response => ?_
  cases response.bind dual.parseDualAssessment with
  | error e => exact trivial
  | ok assessment =>
      refine All.bind ?_ fun _ => trivial
      split_ifs with hviolation
      · exact silentBanReporter_inquires (hban hviolation.1)
      · exact trivial

theorem assessReporter_inquires (adapter : Adapter) :
    (w.assessReporter report adapter).All (Inquires ban) := by
  unfold assessReporter
  split_ifs with hempty
  · exact trivial
  · refine (assessReport_inquires adapter _ _).bind fun result => ?_
    cases result with
    | error e => exact trivial
    | ok assessment =>
        dsimp only
        split_ifs
        · exact silentBanReporter_inquires (hban hempty)
        · exact trivial

omit hban in
theorem assessReported_inquires (adapter : Adapter) :
    (w.assessReported report adapter).All (Inquires ban) := by
  unfold assessReported
  split_ifs
  · exact trivial
  · refine (assessReport_inquires adapter _ _).bind fun result => ?_
    cases result <;> exact trivial

theorem assessSingly_inquires (adapter : Adapter) :
    (w.assessSingly report adapter).All (Inquires ban) := by
  unfold assessSingly
  refine (assessReported_inquires adapter).bind fun verdict => ?_
  cases verdict with
  | failed retryable => exact trivial
  | decided decision => exact (assessReporter_inquires hban adapter).bind fun _ => trivial

/-- **Assessing a report is inquiring, and the reporter is banned only where it has messages.** -/
theorem assess_inquires : (w.assess report).All (Inquires ban) := by
  unfold assess
  split
  · exact trivial
  · split
    · exact assessSingly_inquires hban _
    · split_ifs
      · exact assessBoth_inquires hban _
      · exact assessSingly_inquires hban _

end Ban

/-- **What the worker issues**: its inquiries, and what it does with the verdict. -/
theorem asked_processSingleReport :
    (w.processSingleReport report).asked answer = (w.assess report).asked answer ++
      ((Automod.processSingleReport report.hasTarget ((w.assess report).answered answer)).asked
        fun c => answer (.inl c)).map .inl := by
  unfold processSingleReport
  rw [asked_bind, asked_left]

theorem inl_mem_asked {c : Cmd} : .inl c ∈ (w.processSingleReport report).asked answer ↔
    c ∈ (Automod.processSingleReport report.hasTarget ((w.assess report).answered answer)).asked
      fun c => answer (.inl c) := by
  have hinquiry : .inl c ∉ (w.assess report).asked answer :=
    (assess_inquires fun _ => trivial).of_mem_asked
  rw [asked_processSingleReport, List.mem_append, or_iff_right hinquiry]
  simp

/-- The reporter is banned only where it has messages. -/
theorem ne_nil_of_banReporter (h : .inr .banReporter ∈ (w.processSingleReport report).asked answer) :
    w.reporterEvidence report ≠ [] := by
  rw [asked_processSingleReport, List.mem_append] at h
  rcases h with h | h
  · exact (assess_inquires id).of_mem_asked h
  · simp at h

/-! #### The verdict -/

/-- One side at a time, no evidence means that the report is left to a human. -/
theorem answered_assessSingly_of_nil (adapter : Adapter) (h : w.peerEvidence report = []) :
    (w.assessSingly report adapter).answered answer = .decided .escalate := by
  have hreported : w.assessReported report adapter = .ret (.decided .escalate) := if_pos h
  unfold assessSingly
  rw [hreported]
  simp

/-- Both sides at once, the verdict is that of the answer, whoever has messages. -/
theorem answered_assessBoth (dual : DualAssessmentAdapter) :
    (w.assessBoth report dual).answered answer =
      match ((w.callModelAPI .both (w.dualMessages report dual)).answered answer).bind
        dual.parseDualAssessment with
      | .error e => .failed e.isRetryable
      | .ok assessment => .decided (determineDecision assessment.reportedUser) := by
  unfold assessBoth
  rw [answered_bind]
  cases ((w.callModelAPI .both (w.dualMessages report dual)).answered answer).bind
    dual.parseDualAssessment with
  | error e => rfl
  | ok assessment => simp [afterDual]

theorem answered_callModelAPI (h : isBlank w.baseURL = false) (subject : Subject)
    (messages : List CoreMessage) : (w.callModelAPI subject messages).answered answer =
      received (answer (.inr (.complete subject messages))) := by
  unfold callModelAPI
  rw [if_neg (Bool.eq_false_iff.1 h)]
  rfl

/-- **When the call about both sides comes to a verdict**: it is made, answered, and the answer
classifies the reported user. -/
theorem assessBoth_decides_iff (dual : DualAssessmentAdapter) :
    ((w.assessBoth report dual).answered answer = .decided .approved ∨
        (w.assessBoth report dual).answered answer = .decided .rejected) ↔
      isBlank w.baseURL = false ∧ ∃ raw,
        answer (.inr (.complete .both (w.dualMessages report dual))) = .ok (.ok raw) ∧
          ∃ assessment, dual.parseDualAssessment raw = .ok assessment ∧
            isSafety assessment.reportedUser.userSafety = true := by
  rw [answered_assessBoth]
  cases hblank : isBlank w.baseURL with
  | true =>
      have hcall : w.callModelAPI .both (w.dualMessages report dual) = .ret (.error .baseURLEmpty) :=
        if_pos hblank
      rw [hcall]
      simp [Except.bind]
  | false =>
      rw [answered_callModelAPI hblank]
      obtain ⟨response, hresponse⟩ : ∃ response : Except StoreError (Except AssessmentError String),
        answer (.inr (.complete .both (w.dualMessages report dual))) = response := ⟨_, rfl⟩
      rw [hresponse]
      match response with
      | .error _ => simp [received, Except.bind]
      | .ok (.error e) => simp [received, Except.bind]
      | .ok (.ok raw) =>
          cases hparse : dual.parseDualAssessment raw with
          | error e => simp [received, Except.bind, hparse]
          | ok assessment => simp [received, Except.bind, hparse, determineDecision_iff]

theorem assess_of_dual_none {adapter : Adapter} (hresolve : w.resolve = some adapter)
    (hdual : adapter.dual = none) : w.assess report = w.assessSingly report adapter := by
  unfold assess
  rw [hresolve]
  dsimp only
  rw [hdual]

theorem assess_of_dual {adapter : Adapter} {dual : DualAssessmentAdapter}
    (hresolve : w.resolve = some adapter) (hdual : adapter.dual = some dual) :
    w.assess report =
      if w.peerEvidence report ≠ [] ∨ w.reporterEvidence report ≠ [] then w.assessBoth report dual
      else w.assessSingly report adapter := by
  unfold assess
  rw [hresolve]
  dsimp only
  rw [hdual]

/-- **Without a message of the reported user the worker comes to a verdict exactly when it is
unguarded.** -/
theorem assess_decides_iff (hsilent : Silent w.unmarshal report "peer") :
    ((w.assess report).answered answer = .decided .approved ∨
        (w.assess report).answered answer = .decided .rejected) ↔ Unguarded w report answer := by
  have hnil : w.peerEvidence report = [] := extractEvidence_eq_nil_iff.2 hsilent
  have hsingly (adapter : Adapter) :
      ¬ ((w.assessSingly report adapter).answered answer = .decided .approved ∨
        (w.assessSingly report adapter).answered answer = .decided .rejected) := by
    rw [answered_assessSingly_of_nil adapter hnil]
    decide
  unfold Unguarded
  cases hresolve : w.resolve with
  | none =>
      have hfailed : w.assess report = .ret (.failed false) := by
        unfold assess
        rw [hresolve]
      simp [hfailed]
  | some adapter =>
      cases hdual : adapter.dual with
      | none =>
          rw [assess_of_dual_none hresolve hdual]
          refine iff_of_false (hsingly adapter) ?_
          simp [hdual]
      | some dual =>
          rw [assess_of_dual hresolve hdual]
          by_cases hreporter : w.reporterEvidence report = []
          · -- nobody has a message: the sides are looked at one by one
            rw [if_neg (by simp [hnil, hreporter])]
            refine iff_of_false (hsingly adapter) fun h => h.2.1 ?_
            exact extractEvidence_eq_nil_iff.1 hreporter
          · rw [if_pos (.inr hreporter), assessBoth_decides_iff]
            have hme : ¬ Silent w.unmarshal report "me" :=
              fun h => hreporter (extractEvidence_eq_nil_iff.2 h)
            simp [hsilent, hme, hdual]

end Moderator

/-! ### The verdict rests on evidence -/

section Grounded

variable {w : Moderator} {report : Report}
  {answer : (c : Cmd ⊕ Inquiry) → Except StoreError (Sum.elim Cmd.Reply Inquiry.Reply c)}

/-- **The worker keeps to the evidence exactly when it is not unguarded.** -/
theorem grounded_iff (w : Moderator) (report : Report)
    (answer : (c : Cmd ⊕ Inquiry) → Except StoreError (Sum.elim Cmd.Reply Inquiry.Reply c)) :
    Grounded w.unmarshal report ((w.processSingleReport report).asked answer) ↔
      ¬ Unguarded w report answer := by
  constructor
  · intro h hunguarded
    have hverdict := (Moderator.assess_decides_iff hunguarded.1).2 hunguarded
    obtain ⟨c, hc, hdecides⟩ := exists_decides_iff.2 hverdict
    exact (h.reported hunguarded.1).1 c (Moderator.inl_mem_asked.2 hc) hdecides
  · intro h
    refine ⟨fun hsilent => ?_, fun hsilent hban => ?_⟩
    · have hverdict := mt (Moderator.assess_decides_iff hsilent).1 h
      constructor
      · intro c hc hdecides
        exact hverdict (exists_decides_iff.1 ⟨c, Moderator.inl_mem_asked.1 hc, hdecides⟩)
      · simp only [Moderator.inl_mem_asked]
        exact leaves_of_not_decides (fun h => hverdict (.inl h)) fun h => hverdict (.inr h)
    · exact Moderator.ne_nil_of_banReporter hban (extractEvidence_eq_nil_iff.2 hsilent)

variable {cfg : Config} {number : ℕ}

/-- The effect of a command on the report and on the bans of the reported user. -/
def apply (cfg : Config) (number : ℕ) (s : State) : Cmd ⊕ Inquiry → State
  | .inl c => (s.exec cfg number c).2
  | .inr _ => s

/-- **A command that does not decide** leaves the status of the report, and there is no new ban. -/
theorem apply_of_not_decides {c : Cmd} (h : ¬ c.Decides) (s : State) :
    (apply cfg number s (.inl c)).row.status = s.row.status ∧
      (apply cfg number s (.inl c)).bans.map Ban.id = s.bans.map Ban.id := by
  cases c with
  | createBan => exact absurd trivial h
  | updateStatus status => exact absurd trivial h
  | review decision banId =>
      obtain rfl : decision = .escalate := not_not.1 h
      simp only [apply, State.exec]
      split_ifs with hpending
      · exact ⟨hpending.symm, rfl⟩
      · exact ⟨rfl, rfl⟩
  | deleteBan id =>
      simp only [apply, State.exec]
      split_ifs
      · refine ⟨rfl, ?_⟩
        simp only [State.deactivate, List.map_map]
        refine List.map_congr_left fun ban _ => ?_
        dsimp only [Function.comp]
        split_ifs <;> rfl
      · exact ⟨rfl, rfl⟩
  | _ => exact ⟨rfl, rfl⟩

/-- **Without a message of the reported user the report keeps its status, and there is no new ban**,
whichever of the commands take effect. -/
theorem Grounded.foldl_apply {issued effective : List (Cmd ⊕ Inquiry)}
    (h : Grounded w.unmarshal report issued) (hsilent : Silent w.unmarshal report "peer")
    (heffective : effective.Sublist issued) (s : State) :
    (effective.foldl (apply cfg number) s).row.status = s.row.status ∧
      (effective.foldl (apply cfg number) s).bans.map Ban.id = s.bans.map Ban.id := by
  have hnone : ∀ c, .inl c ∈ effective → ¬ c.Decides :=
    fun c hc => (h.reported hsilent).1 c (heffective.subset hc)
  clear heffective
  induction effective generalizing s with
  | nil => exact ⟨rfl, rfl⟩
  | cons c effective ih =>
      obtain ⟨hstatus, hbans⟩ := ih (apply cfg number s c)
        fun c hc => hnone c (List.mem_cons_of_mem _ hc)
      rw [List.foldl_cons, hstatus, hbans]
      cases c with
      | inl c => exact apply_of_not_decides (hnone c List.mem_cons_self) s
      | inr inquiry => exact ⟨rfl, rfl⟩

end Grounded

/-! ### An answer about nothing -/

/-- A decoder of the answer below, whatever stands around the two values. -/
def unsafeUser (jsonBody : String) : Option NativeResult :=
  if jsonBody = "\x7b\"User Safety\": \"unsafe\", \"Response Safety\": \"safe\"\x7d" then
    some ⟨"unsafe", "safe"⟩
  else none

/-- A chat log with one message, of the reporter. -/
def loneReporter (raw : String) : Option (List ChatLogMessage) :=
  if raw = "[\x7b\"text\":\"hello\",\"sender\":\"me\"\x7d]" then some [⟨"hello", "me"⟩] else none

def guardModel : String := "nvidia/llama-3.1-nemotron-safety-guard-8b-v3"

/-- A worker with the guard model, and the report of a user that has not written anything. -/
def guardWorker : Moderator where
  baseURL := "https://integrate.api.nvidia.com/v1"
  modelType := guardModel
  registeredAdapters := [guardAdapter unsafeUser guardModel fun _ evidence => evidence]
  unmarshal := loneReporter

def silentReport : Report where
  reason := "spam"
  chatLog := "[\x7b\"text\":\"hello\",\"sender\":\"me\"\x7d]"
  reportedSessionID := "session"
  reportedIP := ""
  reporterSessionID := ""
  reporterIP := ""

/-- The model takes a conversation without a user for an unsafe one. -/
def unsafeAnswer : (c : Cmd ⊕ Inquiry) → Except StoreError (Sum.elim Cmd.Reply Inquiry.Reply c)
  | .inr (.complete _ _) =>
      .ok (.ok "\x7b\"User Safety\": \"unsafe\", \"Response Safety\": \"safe\"\x7d")
  | _ => .error .failed

/-- **A model's answer about nothing bans the reported user.** -/
theorem guard_bansOnNothing :
    ¬ Grounded guardWorker.unmarshal silentReport
      ((guardWorker.processSingleReport silentReport).asked unsafeAnswer) := by
  intro h
  have hsilent : Silent guardWorker.unmarshal silentReport "peer" := by decide +kernel
  have hban : ((guardWorker.processSingleReport silentReport).asked unsafeAnswer)[1]? =
      some (.inl .createBan) := by decide +kernel
  exact (h.reported hsilent).1 .createBan (List.mem_of_getElem? hban) trivial

end Automod
