/-
**From an accepted configuration to the worker of an AI bot.**

What the server has accepted is written to the database, which keeps the members of an object in an
order of its own, and is published in the snapshot of the definitions.  The worker reads the settings
from there, with defaults for what it does not find or does not like.

A worker completes an endpoint that does not name the operation.  A setting that is zero or empty is
not written, so the worker takes its default.

Main definitions:

* `Bots.marshalDefinition`, `Bots.Stored` — a definition in the snapshot, from what the database keeps;
* `Bots.LLMOptions`, `Bots.usedBy` — the settings that the worker uses;
* `Bots.Unchanged`, `Bots.Carried` — the worker uses all the accepted values; **it uses those that are
  not zero or empty, and completes the endpoint**;
* `Bots.TransportLaw` — what holds of every configuration that is accepted.

Main results:

* `Bots.usedBy_stored` — the settings of the worker, read from what was written;
* `Bots.transportLaw_carried` — **the law holds of the carried values**;
* `Bots.endpoint_completed` — the worker uses another endpoint, and not the temperature zero.
-/

import Pairline.Bots.AIConfig

set_option relaxedAutoImplicit false
set_option autoImplicit false

namespace Bots

open Documents
open Members (get)
open Whitespace (trim trim_trim)

/-! ### The snapshot -/

/-- A definition as it is published; a configuration without any text is null. -/
def marshalDefinition {β : Type} (definition : DefinitionRow (Columns β)) : Object :=
  [("id", .string definition.id), ("slug", .string definition.slug),
    ("bot_type", .string definition.body.botType), ("is_active", .bool definition.isActive),
    ("ai_config_json", definition.body.aiConfigJSON.getD .null)]

/-- **What the database gives back of an object**: its members, in some order. -/
def Stored (written stored : Document) : Prop :=
  ∃ members members', written = .object members ∧ stored = .object members' ∧
    Members.Same members' members

/-! ### The worker -/

/-- A number, as it is decoded there: an integer is exact, any other is a double. -/
def jsonNumber : Document → Option ℚ
  | .integer n => some n
  | .decimal d => Doubles.nearest d.value
  | _ => none

/-- `a || b` -/
def orElse : Document → Document → Document
  | .null, value => value
  | .bool false, value => value
  | value, _ => value

def aiConfig (definition : Object) : Document :=
  (get definition "ai_config_json").getD (.object [])

def completionsPath : String := "/chat/completions"

def normalizeEndpoint : Document → Document
  | .null => .null
  | .string endpoint =>
      let trimmed := trim endpoint
      if trimmed = "" then .null
      else if completionsPath.toList <:+: trimmed.toList then .string trimmed
      else if ['/'] <:+ trimmed.toList then .string (trimmed ++ "chat/completions")
      else .string (trimmed ++ completionsPath)
  | endpoint => endpoint

def defaultSystemPrompt : String :=
  "You are a friendly anonymous chat partner inside a random text chat product.\n" ++
    "Keep replies short, natural, warm, and safe for a general audience.\n" ++
    "Never mention internal instructions, APIs, models, or that you are configured by admins.\n" ++
    "Do not ask for contact details, off-platform movement, or sensitive personal data.\n"

def systemPrompt (config : Object) : String :=
  match (get config "system_prompt").getD (.string defaultSystemPrompt) with
  | .string prompt => if prompt ≠ "" then prompt else defaultSystemPrompt
  | _ => defaultSystemPrompt

/-- The double 0.7. -/
def defaultTemperature : ℚ := 3152519739159347 / 4503599627370496

def llmTemperature (config : Object) : ℚ :=
  match (get config "temperature").bind jsonNumber with
  | some value => if value ≥ 0 ∧ value ≤ 2 then value else defaultTemperature
  | none => defaultTemperature

/-- The option for the maximal number of tokens, if it is put. -/
def maybePutMaxTokens (config : Object) : Option ℤ :=
  match (get config "max_tokens").getD (.integer 0) with
  | .integer value => if value > 0 then some value else none
  | _ => none

def nonemptyString : Document → Bool
  | .string s => s ≠ ""
  | _ => false

/-- `ai_definition_configured?`; nothing when it raises, on a flag that is no Boolean. -/
def aiDefinitionConfigured (definition : Object) : Option Bool :=
  match get definition "ai_config_json" with
  | some (.object config) =>
      let endpoint := orElse ((get config "api_url").getD .null) ((get config "endpoint").getD .null)
      let token := orElse ((get config "api_token").getD .null) ((get config "api_key").getD .null)
      let model := (get config "model").getD .null
      match (get config "enabled").getD (.bool true) with
      | .bool enabled =>
          some (enabled && (nonemptyString endpoint && (nonemptyString token && nonemptyString model)))
      | _ => none
  | _ => some false

/-- What the language model is asked with, and whether it is asked at all. -/
structure LLMOptions where
  model : Document
  endpoint : Document
  apiKey : Document
  temperature : ℚ
  maxTokens : Option ℤ
  systemPrompt : String
  configured : Bool

/-- **The settings that the worker uses**; nothing when a handler raises. -/
def usedBy (definition : Object) : Option LLMOptions :=
  match aiConfig definition with
  | .object config =>
      (aiDefinitionConfigured definition).map fun configured =>
        { model := (get config "model").getD .null
          endpoint := normalizeEndpoint ((get config "api_url").getD .null)
          apiKey := (get config "api_token").getD .null
          temperature := llmTemperature config
          maxTokens := maybePutMaxTokens config
          systemPrompt := systemPrompt config
          configured := configured }
  | _ => none

/-! ### The law -/

/-- **The worker uses the accepted values**: those that were found under any of their names, and those
that were given. -/
structure Unchanged (members : Object) (config : AIConfig) (used : LLMOptions) : Prop where
  endpoint : used.endpoint = .string config.apiURL
  token : used.apiKey = .string config.apiToken
  model : used.model = .string config.model
  systemPrompt : ∀ text, get members "system_prompt" = some (.string text) →
    used.systemPrompt = trim text
  temperature : ∀ value q, get members "temperature" = some value → readNumber value = some q →
    used.temperature = q
  maxTokens : ∀ value q, get members "max_tokens" = some value → readNumber value = some q →
    ∃ n : ℤ, q = n ∧ used.maxTokens = some n
  enabled : used.configured = config.enabled

/-- **The worker uses the accepted values that are not zero or empty, and an endpoint that names the
operation.** -/
structure Carried (members : Object) (config : AIConfig) (used : LLMOptions) : Prop where
  whole : completionsPath.toList <:+: config.apiURL.toList → used.endpoint = .string config.apiURL
  slash : ¬completionsPath.toList <:+: config.apiURL.toList → ∀ base, config.apiURL = base ++ "/" →
    used.endpoint = .string (base ++ completionsPath)
  base : ¬completionsPath.toList <:+: config.apiURL.toList → ¬['/'] <:+ config.apiURL.toList →
    used.endpoint = .string (config.apiURL ++ completionsPath)
  token : used.apiKey = .string config.apiToken
  model : used.model = .string config.model
  systemPrompt : ∀ text, get members "system_prompt" = some (.string text) → trim text ≠ "" →
    used.systemPrompt = trim text
  temperature : ∀ value q, get members "temperature" = some value → readNumber value = some q →
    q ≠ 0 → used.temperature = q
  maxTokens : ∀ value q, get members "max_tokens" = some value → readNumber value = some q → q ≠ 0 →
    ∃ n : ℤ, q = n ∧ used.maxTokens = some n
  enabled : used.configured = config.enabled

/-- **What holds of every configuration that is accepted**, once it is stored and published. -/
def TransportLaw (Carries : Object → AIConfig → LLMOptions → Prop) : Prop :=
  ∀ (β : Type) (definition : DefinitionRow (Columns β)) raw normalized stored,
    lowerTrimmed definition.body.botType = "ai" →
    normalizeDefinitionAIConfig definition.body.botType raw = .ok normalized →
    Stored normalized stored → definition.body.aiConfigJSON = some stored →
      ∃ members config used, raw = some (.object members) ∧ parseAIConfig raw = .ok config ∧
        usedBy (marshalDefinition definition) = some used ∧ Carries members config used

/-! ### What is read of what was written -/

section Reads

variable {β : Type} {definition : DefinitionRow (Columns β)} {config : AIConfig} {stored : Document}

/-- The settings of a worker in terms of the accepted ones. -/
def AIConfig.options (config : AIConfig) : LLMOptions where
  model := .string config.model
  endpoint := normalizeEndpoint (.string config.apiURL)
  apiKey := .string config.apiToken
  temperature := if config.temperature = 0 then defaultTemperature else config.temperature
  maxTokens := if config.maxTokens = 0 then none else some config.maxTokens
  systemPrompt := if config.systemPrompt = "" then defaultSystemPrompt else config.systemPrompt
  configured := config.enabled

theorem get_marshalDefinition (h : definition.body.aiConfigJSON = some stored) :
    get (marshalDefinition definition) "ai_config_json" = some stored := by
  simp [marshalDefinition, Members.get, h]

/-- A member of the stored object is the one that was written. -/
theorem get_of_same {members : Object} (h : Members.Same members (Members.given config.rows))
    (name : String) : get members name = (get config.rows name).join := by
  rw [h, Members.get_given (nodup_rows config)]

/-- The members that are always written. -/
theorem get_texts_of_same {members : Object}
    (h : Members.Same members (Members.given config.rows)) :
    get members "api_url" = some (.string config.apiURL) ∧
      get members "api_token" = some (.string config.apiToken) ∧
      get members "model" = some (.string config.model) ∧
      get members "enabled" = some (.bool config.enabled) := by
  rw [get_of_same h, get_of_same h, get_of_same h, get_of_same h]
  simp [AIConfig.rows, Members.get, List.lookup_cons]

theorem llmTemperature_of_same {members : Object} (hchecked : config.Checked)
    (h : Members.Same members (Members.given config.rows)) :
    llmTemperature members = config.options.temperature := by
  have hbounds := hchecked.temperature
  have hget : get members "temperature" =
      omitEmpty (config.temperature = 0) (printNumber config.temperature) := by
    rw [get_of_same h]
    simp [AIConfig.rows, Members.get, List.lookup_cons]
  rw [llmTemperature, hget, AIConfig.options]
  by_cases hzero : config.temperature = 0
  · simp [hzero, omitEmpty]
  · have hnumber : jsonNumber (printNumber config.temperature) = some config.temperature := by
      have hsmall : |config.temperature| ≤ 2 ^ 53 := by
        rw [abs_of_nonneg hbounds.1]
        exact hbounds.2.trans (by norm_num)
      rcases printNumber_cases hsmall with ⟨hprint, hint⟩ | hprint
      · rw [hprint, jsonNumber, ← hint]
      · rw [hprint, jsonNumber]
        exact Doubles.nearest_shortest hchecked.double
    simp [hzero, omitEmpty, hnumber, hbounds.1, hbounds.2]

theorem maybePutMaxTokens_of_same {members : Object} (hchecked : config.Checked)
    (h : Members.Same members (Members.given config.rows)) :
    maybePutMaxTokens members = config.options.maxTokens := by
  have hbounds := hchecked.maxTokens
  have hget : get members "max_tokens" =
      omitEmpty (config.maxTokens = 0) (.integer config.maxTokens) := by
    rw [get_of_same h]
    simp [AIConfig.rows, Members.get]
  rw [maybePutMaxTokens, hget, AIConfig.options]
  by_cases hzero : config.maxTokens = 0
  · simp [hzero, omitEmpty]
  · have hpos : config.maxTokens > 0 := by omega
    simp [hzero, omitEmpty, hpos]

theorem systemPrompt_of_same {members : Object}
    (h : Members.Same members (Members.given config.rows)) :
    systemPrompt members = config.options.systemPrompt := by
  have hget : get members "system_prompt" =
      omitEmpty (config.systemPrompt = "") (.string config.systemPrompt) := by
    rw [get_of_same h]
    simp [AIConfig.rows, Members.get, List.lookup_cons]
  rw [systemPrompt, hget, AIConfig.options]
  by_cases hempty : config.systemPrompt = ""
  · simp [hempty, omitEmpty]
  · simp [hempty, omitEmpty]

theorem aiDefinitionConfigured_of_same {definition members : Object} (hchecked : config.Checked)
    (hget : get definition "ai_config_json" = some (.object members))
    (h : Members.Same members (Members.given config.rows)) :
    aiDefinitionConfigured definition = some config.enabled := by
  obtain ⟨hendpoint, htoken, hmodel, henabled⟩ := get_texts_of_same h
  rw [aiDefinitionConfigured, hget]
  simp [hendpoint, htoken, hmodel, henabled, orElse, nonemptyString, hchecked.apiURL.nonempty,
    hchecked.apiToken.nonempty, hchecked.model.nonempty]

/-- **The settings of the worker, read from what was written.** -/
theorem usedBy_stored (hchecked : config.Checked) (hstored : Stored config.marshal stored)
    (hjson : definition.body.aiConfigJSON = some stored) :
    usedBy (marshalDefinition definition) = some config.options := by
  obtain ⟨members, members', hwritten, rfl, hsame⟩ := hstored
  cases hwritten
  have hget := get_marshalDefinition hjson
  have hconfig : aiConfig (marshalDefinition definition) = .object members' := by
    rw [aiConfig, hget]
    rfl
  obtain ⟨hurl, htoken, hmodel, -⟩ := get_texts_of_same hsame
  rw [usedBy, hconfig]
  simp only [aiDefinitionConfigured_of_same hchecked hget hsame, llmTemperature_of_same hchecked hsame,
    maybePutMaxTokens_of_same hchecked hsame, systemPrompt_of_same hsame, hurl, htoken, hmodel,
    Option.map_some, Option.getD_some]
  rfl

end Reads

/-! ### What was given -/

section Given

variable {members : Object} {decoded : List (String × Value)} {config : AIConfig}

theorem field_of_member (hdecoded : unmarshalObject (.object members) = some decoded) {name : String}
    {value : Document} (hget : get members name = some value) :
    field decoded name = (unmarshal value).getD .nil := by
  rw [field, get_unmarshalObject hdecoded, hget, Option.bind_some]

theorem systemPrompt_of_given (hdecoded : unmarshalObject (.object members) = some decoded)
    (hfrom : config.ParsedFrom decoded) {text : String}
    (hget : get members "system_prompt" = some (.string text)) : config.systemPrompt = trim text := by
  obtain ⟨-, hprompt⟩ := atMost_eq_ok.1 hfrom.systemPrompt
  rw [← hprompt, field_of_member hdecoded hget]
  exact trim_trim text

theorem temperature_of_given (hdecoded : unmarshalObject (.object members) = some decoded)
    (hfrom : config.ParsedFrom decoded) {value : Document} {q : ℚ}
    (hget : get members "temperature" = some value) (hread : readNumber value = some q) :
    config.temperature = q := by
  have hfield : field decoded "temperature" = .float64 q := by
    rw [field_of_member hdecoded hget, unmarshal_of_readNumber hread]
    rfl
  have htemperature := hfrom.temperature
  rw [temperatureOf, hfield] at htemperature
  simp only [optionalFloat] at htemperature
  split at htemperature
  · cases htemperature
  · exact (Except.ok.inj htemperature).symm

theorem maxTokens_of_given (hdecoded : unmarshalObject (.object members) = some decoded)
    (hfrom : config.ParsedFrom decoded) {value : Document} {q : ℚ}
    (hget : get members "max_tokens" = some value) (hread : readNumber value = some q) :
    q = config.maxTokens := by
  have hfield : field decoded "max_tokens" = .float64 q := by
    rw [field_of_member hdecoded hget, unmarshal_of_readNumber hread]
    rfl
  have hmaxTokens := hfrom.maxTokens
  rw [maxTokensOf, hfield] at hmaxTokens
  by_cases hint : q.den = 1 ∧ -2 ^ 63 ≤ q.num ∧ q.num < 2 ^ 63
  · simp only [optionalInt, if_pos hint] at hmaxTokens
    split at hmaxTokens
    · cases hmaxTokens
    · rw [← Except.ok.inj hmaxTokens]
      exact ((Rat.den_eq_one_iff q).1 hint.1).symm
  · simp only [optionalInt, if_neg hint] at hmaxTokens
    cases hmaxTokens

end Given

/-! ### The law holds -/

/-- A trimmed endpoint is completed to one that names the operation. -/
theorem normalizeEndpoint_string {endpoint : String} (htrim : trim endpoint = endpoint)
    (hne : endpoint ≠ "") :
    normalizeEndpoint (.string endpoint) =
      if completionsPath.toList <:+: endpoint.toList then .string endpoint
      else if ['/'] <:+ endpoint.toList then .string (endpoint ++ "chat/completions")
      else .string (endpoint ++ completionsPath) := by
  rw [normalizeEndpoint]
  simp only [htrim, if_neg hne]

theorem carried_options {members : Object} {decoded : List (String × Value)} {config : AIConfig}
    (hdecoded : unmarshalObject (.object members) = some decoded)
    (hfrom : config.ParsedFrom decoded) (hchecked : config.Checked) :
    Carried members config config.options where
  whole hpath := by
    rw [AIConfig.options, normalizeEndpoint_string hchecked.apiURL.trimmed hchecked.apiURL.nonempty,
      if_pos hpath]
  slash hpath base hbase := by
    have hslash : ['/'] <:+ config.apiURL.toList := by
      rw [hbase, String.toList_append]
      exact List.suffix_append _ _
    rw [AIConfig.options, normalizeEndpoint_string hchecked.apiURL.trimmed hchecked.apiURL.nonempty,
      if_neg hpath, if_pos hslash, hbase, String.append_assoc]
    rfl
  base hpath hslash := by
    rw [AIConfig.options, normalizeEndpoint_string hchecked.apiURL.trimmed hchecked.apiURL.nonempty,
      if_neg hpath, if_neg hslash]
  token := rfl
  model := rfl
  systemPrompt text hget hne := by
    have hprompt := systemPrompt_of_given hdecoded hfrom hget
    rw [AIConfig.options, hprompt, if_neg hne]
  temperature value q hget hread hne := by
    have htemperature := temperature_of_given hdecoded hfrom hget hread
    rw [AIConfig.options, htemperature, if_neg hne]
  maxTokens value q hget hread hne := by
    have hmaxTokens := maxTokens_of_given hdecoded hfrom hget hread
    have hzero : config.maxTokens ≠ 0 := by
      intro hzero
      rw [hzero, Int.cast_zero] at hmaxTokens
      exact hne hmaxTokens
    exact ⟨config.maxTokens, hmaxTokens, if_neg hzero⟩
  enabled := rfl

/-- **The worker uses the accepted values that are not zero or empty, and an endpoint that names the
operation.** -/
theorem transportLaw_carried : TransportLaw Carried := by
  intro β definition raw normalized stored hai hnormalized hstored hjson
  rw [normalizeDefinitionAIConfig, if_neg (not_not.2 hai)] at hnormalized
  cases hparse : parseAIConfig raw with
  | error e =>
      rw [hparse] at hnormalized
      cases hnormalized
  | ok config =>
      rw [hparse] at hnormalized
      cases hnormalized
      obtain ⟨members, decoded, rfl, hdecoded, hfrom⟩ := exists_decoded hparse
      have hchecked := checked_of_parse hparse
      exact ⟨members, config, config.options, rfl, rfl, usedBy_stored hchecked hstored hjson,
        carried_options hdecoded (parseDecoded_eq_ok.1 hfrom) hchecked⟩

/-- A configuration with the base of an API, and with the temperature zero. -/
def baseConfig : Object :=
  [("api_url", .string "https://api.example.com/v1"), ("api_token", .string "secret"),
    ("model", .string "small"), ("temperature", .integer 0)]

/-- What is accepted of it. -/
def baseAccepted : AIConfig where
  enabled := true
  provider := "openai-compatible"
  apiURL := "https://api.example.com/v1"
  apiToken := "secret"
  model := "small"
  systemPrompt := ""
  temperature := 0
  maxTokens := 0

example : Doubles.nearest (7 / 10) = some defaultTemperature := by decide +kernel

/-- The bot with this configuration. -/
def basePublished : DefinitionRow (Columns Unit) where
  id := "bot"
  slug := "bot"
  isActive := true
  updatedAt := 0
  body := { botType := "ai", aiConfigJSON := some baseAccepted.marshal, rest := () }

/-- **The worker uses another endpoint, and not the temperature zero.** -/
theorem endpoint_completed :
    (∃ used, parseAIConfig (some (.object baseConfig)) = .ok baseAccepted ∧
      usedBy (marshalDefinition basePublished) = some used ∧
        used.endpoint = .string "https://api.example.com/v1/chat/completions" ∧
        used.temperature = defaultTemperature) ∧
      ¬TransportLaw Unchanged := by
  have hparse : parseAIConfig (some (.object baseConfig)) = .ok baseAccepted := by decide +kernel
  have hstored : Stored baseAccepted.marshal baseAccepted.marshal :=
    ⟨_, _, rfl, rfl, fun _ => rfl⟩
  have hused : usedBy (marshalDefinition basePublished) = some baseAccepted.options :=
    usedBy_stored (checked_of_parse hparse) hstored rfl
  have htrim : trim baseAccepted.apiURL = baseAccepted.apiURL := by decide +kernel
  have hpath : ¬completionsPath.toList <:+: baseAccepted.apiURL.toList := by decide +kernel
  have hslash : ¬['/'] <:+ baseAccepted.apiURL.toList := by decide +kernel
  have hendpoint : baseAccepted.options.endpoint =
      .string "https://api.example.com/v1/chat/completions" := by
    rw [AIConfig.options, normalizeEndpoint_string htrim (by decide), if_neg hpath, if_neg hslash]
    rfl
  refine ⟨⟨baseAccepted.options, hparse, hused, hendpoint, rfl⟩, fun hlaw => ?_⟩
  have hai : lowerTrimmed basePublished.body.botType = "ai" := by decide +kernel
  have hnormalized : normalizeDefinitionAIConfig basePublished.body.botType
      (some (.object baseConfig)) = .ok baseAccepted.marshal := by
    rw [normalizeDefinitionAIConfig, if_neg (not_not.2 hai), hparse]
    rfl
  obtain ⟨members, config, used, -, hconfig, hused', hunchanged⟩ :=
    hlaw Unit basePublished _ _ _ hai hnormalized hstored rfl
  cases hparse.symm.trans hconfig
  cases hused.symm.trans hused'
  have hsame := hendpoint.symm.trans hunchanged.endpoint
  rw [Document.string.injEq] at hsame
  exact absurd hsame (by decide)

end Bots
