/-
**The configuration of an AI bot.**

The configuration is JSON.  The server takes it from an admin, reads the settings that it knows, under
any of their names, checks them and stores them under one name each; what is empty is left out.  A
moderator is shown the stored configuration without the API token, whatever else is stored there.

Main definitions:

* `Bots.AIConfig`, `Bots.parseAIConfig`, `Bots.AIConfig.marshal` — the settings, read and written;
* `Bots.normalizeDefinitionAIConfig` — what is stored of a configuration;
* `Bots.sanitizeDefinitionForRole` — what is shown of a definition;
* `Bots.DifferInToken` — **two definitions differ in nothing but their API token**;
* `Bots.SecrecyLaw` — the token is not shown, and what is normalised stays as it is.

Main results:

* `Bots.sanitizeAIConfigJSON_congr` — what is shown does not depend on the token;
* `Bots.parseAIConfig_marshal` — **what is written is read as it was**;
* `Bots.secrecyLaw` — **the law holds**.
-/

import Pairline.Bots.Snapshots
import Pairline.Documents

set_option relaxedAutoImplicit false
set_option autoImplicit false

namespace Bots

open Documents
open Members (get listed)
open Whitespace (trim trim_trim)

/-! ### Reading a decoded map -/

/-- A member of a decoded map; one that is missing is nil. -/
def field (decoded : List (String × Value)) (name : String) : Value := (get decoded name).getD .nil

def stringValue : Value → String
  | .string s => trim s
  | _ => ""

def firstNonEmptyString (values : List String) : String :=
  ((values.map trim).find? (· ≠ "")).getD ""

def optionalBool (value : Value) (defaultValue : Bool) : Bool :=
  match value with
  | .bool parsed => parsed
  | _ => defaultValue

/-- `optionalFloat`; nothing when the value is no number. -/
def optionalFloat : Value → Option ℚ
  | .nil => some 0
  | .float64 number => some number
  | _ => none

/-- `optionalInt`; nothing when the value is no number, or not that of a 64-bit integer. -/
def optionalInt : Value → Option ℤ
  | .nil => some 0
  | .float64 number =>
      if number.den = 1 ∧ -2 ^ 63 ≤ number.num ∧ number.num < 2 ^ 63 then some number.num else none
  | _ => none

theorem trim_stringValue (value : Value) : trim (stringValue value) = stringValue value := by
  cases value <;> simp [stringValue]

theorem trim_firstNonEmptyString (values : List String) :
    trim (firstNonEmptyString values) = firstNonEmptyString values := by
  rw [firstNonEmptyString]
  cases hfind : (values.map trim).find? (· ≠ "") with
  | none => rfl
  | some value =>
      obtain ⟨text, -, rfl⟩ := List.mem_map.1 (List.mem_of_find?_eq_some hfind)
      simp

/-- The first name counts when it has a text. -/
theorem firstNonEmptyString_cons {value : String} (values : List String) (h : value ≠ "")
    (htrim : trim value = value) : firstNonEmptyString (value :: values) = value := by
  simp [firstNonEmptyString, htrim, h]

/-! ### The settings -/

def defaultAIProvider : String := "openai-compatible"

/-- `AIConfig`. -/
structure AIConfig where
  enabled : Bool
  provider : String
  apiURL : String
  apiToken : String
  model : String
  systemPrompt : String
  temperature : ℚ
  maxTokens : ℤ
  deriving DecidableEq

/-- The check of a text's length, which is counted in bytes. -/
def atMost (value name : String) (limit : ℕ) : Except String String :=
  if value.utf8ByteSize > limit then
    .error ("ai_config_json." ++ name ++ " must be at most " ++ toString limit ++ " characters")
  else .ok value

/-- A text that must be given, under one of several names. -/
def requiredText (decoded : List (String × Value)) (names : List String) (name : String)
    (limit : ℕ) : Except String String :=
  let value := firstNonEmptyString (names.map fun name => stringValue (field decoded name))
  if value = "" then .error ("ai_config_json." ++ name ++ " is required for ai bots")
  else atMost value name limit

def providerOf (decoded : List (String × Value)) : String :=
  let provider := trim (stringValue (field decoded "provider"))
  if provider = "" then defaultAIProvider else provider

def temperatureOf (decoded : List (String × Value)) : Except String ℚ :=
  match optionalFloat (field decoded "temperature") with
  | none => .error "ai_config_json.temperature must be a number between 0 and 2"
  | some temperature =>
      if temperature < 0 ∨ temperature > 2 then
        .error "ai_config_json.temperature must be between 0 and 2"
      else .ok temperature

def maxTokensOf (decoded : List (String × Value)) : Except String ℤ :=
  match optionalInt (field decoded "max_tokens") with
  | none => .error "ai_config_json.max_tokens must be an integer between 1 and 16000"
  | some maxTokens =>
      if maxTokens < 0 ∨ maxTokens > 16000 then
        .error "ai_config_json.max_tokens must be between 1 and 16000"
      else .ok maxTokens

/-- The settings in a decoded map, checked in turn. -/
def parseDecoded (decoded : List (String × Value)) : Except String AIConfig := do
  let endpoint ← requiredText decoded ["api_url", "endpoint", "base_url"] "api_url" 2048
  let token ← requiredText decoded ["api_token", "token", "api_key"] "api_token" 4096
  let model ← requiredText decoded ["model", "model_name"] "model" 255
  let provider ← atMost (providerOf decoded) "provider" 120
  let systemPrompt ←
    atMost (trim (stringValue (field decoded "system_prompt"))) "system_prompt" 8000
  let temperature ← temperatureOf decoded
  let maxTokens ← maxTokensOf decoded
  return {
    enabled := optionalBool (field decoded "enabled") true
    provider := provider
    apiURL := endpoint
    apiToken := token
    model := model
    systemPrompt := systemPrompt
    temperature := temperature
    maxTokens := maxTokens }

def parseAIConfig : Option Document → Except String AIConfig
  | none => .error "ai_config_json is required for ai bots"
  | some .null => .error "ai_config_json is required for ai bots"
  | some raw =>
      match unmarshalObject raw with
      | none => .error "ai_config_json must be a valid JSON object"
      | some decoded => parseDecoded decoded

/-- A value with `omitempty`. -/
def omitEmpty (empty : Bool) (value : Document) : Option Document :=
  if empty then none else some value

/-- The fields with their names, as far as they are written. -/
def AIConfig.rows (config : AIConfig) : List (String × Option Document) :=
  [("enabled", some (.bool config.enabled)),
    ("provider", some (.string config.provider)),
    ("api_url", some (.string config.apiURL)),
    ("api_token", some (.string config.apiToken)),
    ("model", some (.string config.model)),
    ("system_prompt", omitEmpty (config.systemPrompt = "") (.string config.systemPrompt)),
    ("temperature", omitEmpty (config.temperature = 0) (printNumber config.temperature)),
    ("max_tokens", omitEmpty (config.maxTokens = 0) (.integer config.maxTokens))]

/-- `json.Marshal` of the settings. -/
def AIConfig.marshal (config : AIConfig) : Document := .object (Members.given config.rows)

/-- `strings.ToLower` of a trimmed text, which is compared with ASCII words. -/
def lowerTrimmed (s : String) : String := String.ofList ((trim s).toList.map toLowerRune)

/-- **What is stored of a configuration.** -/
def normalizeDefinitionAIConfig (botType : String) (raw : Option Document) :
    Except String Document :=
  if lowerTrimmed botType ≠ "ai" then .ok (.object [])
  else (parseAIConfig raw).map AIConfig.marshal

/-! ### What is shown -/

/-- The columns of a definition, as far as its configuration goes; no text at all is `none`. -/
structure Columns (β : Type) where
  botType : String
  aiConfigJSON : Option Document
  rest : β

/-- The names under which a token may be stored. -/
def tokenFields : List String := ["api_token", "api_key", "token"]

def sanitizeAIConfigJSON : Option Document → Document
  | none => .object []
  | some .null => .object []
  | some raw =>
      match unmarshalObject raw with
      | none => .object []
      | some decoded => marshal (.map (decoded.filter fun e => e.1 ∉ tokenFields))

theorem sanitizeAIConfigJSON_object (members : Object) :
    sanitizeAIConfigJSON (some (.object members)) =
      match unmarshalObject (.object members) with
      | none => .object []
      | some decoded => marshal (.map (decoded.filter fun e => e.1 ∉ tokenFields)) := rfl

/-- The role may see the token. -/
def seesToken (role : String) : Bool := lowerTrimmed role = "admin" || lowerTrimmed role = "root"

/-- **What a role is shown of a definition.** -/
def sanitizeDefinitionForRole {β : Type} (definition : DefinitionRow (Columns β)) (role : String) :
    DefinitionRow (Columns β) :=
  if seesToken role then definition
  else
    { definition with
      body := { definition.body with
        aiConfigJSON := some (sanitizeAIConfigJSON definition.body.aiConfigJSON) } }

/-! ### The law -/

/-- The tokens that are listed are values that a decoder can read, such as texts. -/
def TokensRead (members : Object) : Prop :=
  ∀ e ∈ members, e.1 ∈ tokenFields → (unmarshal e.2).isSome = true

/-- **Two configurations differ in nothing but the API token**: every other name has the same values. -/
def ConfigsDifferInToken : Option Document → Option Document → Prop
  | some (.object members), some (.object members') =>
      TokensRead members ∧ TokensRead members' ∧
        ∀ name ∉ tokenFields, listed members name = listed members' name
  | raw, raw' => raw = raw'

/-- **Two definitions differ in nothing but their API token.** -/
def DifferInToken {β : Type} (definition definition' : DefinitionRow (Columns β)) : Prop :=
  ConfigsDifferInToken definition.body.aiConfigJSON definition'.body.aiConfigJSON ∧
    { definition' with body := { definition'.body with
        aiConfigJSON := definition.body.aiConfigJSON } } = definition

/-- **A role that may not see the token is shown the same of definitions that differ in nothing else,
and a normalised configuration is normalised to itself.** -/
structure SecrecyLaw (β : Type) : Prop where
  secret : ∀ definition definition' : DefinitionRow (Columns β),
    DifferInToken definition definition' → ∀ role, seesToken role = false →
      sanitizeDefinitionForRole definition role = sanitizeDefinitionForRole definition' role
  stable : ∀ botType raw normalized, normalizeDefinitionAIConfig botType raw = .ok normalized →
    normalizeDefinitionAIConfig botType (some normalized) = .ok normalized

/-! ### Nothing of the token is shown -/

section Secrecy

variable {members members' : Object}

/-- Configurations that differ in nothing but the token are decoded both or not at all. -/
theorem isSome_unmarshalObject_of_differ (htokens' : TokensRead members')
    (hlisted : ∀ name ∉ tokenFields, listed members name = listed members' name)
    (h : (unmarshalObject (.object members)).isSome = true) :
    (unmarshalObject (.object members')).isSome = true := by
  rw [unmarshalObject, Option.isSome_map, isSome_unmarshalMembers] at h ⊢
  rintro ⟨name, value⟩ hmem
  by_cases hname : name ∈ tokenFields
  · exact htokens' _ hmem hname
  · -- the other configuration lists the same value
    have hvalue : value ∈ listed members name := by
      rw [hlisted name hname]
      exact Members.mem_listed.2 hmem
    exact h _ (Members.mem_listed.1 hvalue)

/-- What is left of two decoded maps is the same. -/
theorem filter_unmarshalObject_of_differ {decoded decoded' : List (String × Value)}
    (hlisted : ∀ name ∉ tokenFields, listed members name = listed members' name)
    (h : unmarshalObject (.object members) = some decoded)
    (h' : unmarshalObject (.object members') = some decoded') :
    decoded.filter (fun e => e.1 ∉ tokenFields) = decoded'.filter fun e => e.1 ∉ tokenFields := by
  refine Members.eq_of_same ((increasing_unmarshalObject h).filter _)
    ((increasing_unmarshalObject h').filter _) fun name => ?_
  rw [Members.get_filter_name (fun name => decide (name ∉ tokenFields)),
    Members.get_filter_name (fun name => decide (name ∉ tokenFields))]
  by_cases hname : name ∈ tokenFields
  · simp [hname]
  · simp [hname, get_unmarshalObject_congr h h' (hlisted name hname)]

/-- **What is shown of a configuration does not depend on the token.** -/
theorem sanitizeAIConfigJSON_congr {raw raw' : Option Document} (h : ConfigsDifferInToken raw raw') :
    sanitizeAIConfigJSON raw = sanitizeAIConfigJSON raw' := by
  unfold ConfigsDifferInToken at h
  split at h
  · next members members' =>
      obtain ⟨htokens, htokens', hlisted⟩ := h
      rw [sanitizeAIConfigJSON_object, sanitizeAIConfigJSON_object]
      cases hdecoded : unmarshalObject (.object members) with
      | none =>
          have hnone : unmarshalObject (.object members') = none := by
            by_contra hne
            have hsome := isSome_unmarshalObject_of_differ htokens
              (fun name hname => (hlisted name hname).symm) (Option.isSome_iff_ne_none.2 hne)
            rw [hdecoded] at hsome
            cases hsome
          rw [hnone]
      | some decoded =>
          obtain ⟨decoded', hdecoded'⟩ := Option.isSome_iff_exists.1
            (isSome_unmarshalObject_of_differ htokens' hlisted (by rw [hdecoded]; rfl))
          simp only [hdecoded', filter_unmarshalObject_of_differ hlisted hdecoded hdecoded']
  · rw [h]

end Secrecy

/-! ### What is accepted -/

section Accepted

variable {decoded : List (String × Value)} {raw : Option Document} {config : AIConfig}

/-- A text that was trimmed, is not empty and is short enough. -/
structure GivenText (value : String) (limit : ℕ) : Prop where
  trimmed : trim value = value
  nonempty : value ≠ ""
  short : value.utf8ByteSize ≤ limit

/-- **The settings that pass the checks.** -/
structure AIConfig.Checked (config : AIConfig) : Prop where
  provider : GivenText config.provider 120
  apiURL : GivenText config.apiURL 2048
  apiToken : GivenText config.apiToken 4096
  model : GivenText config.model 255
  promptTrimmed : trim config.systemPrompt = config.systemPrompt
  promptShort : config.systemPrompt.utf8ByteSize ≤ 8000
  temperature : 0 ≤ config.temperature ∧ config.temperature ≤ 2
  double : Doubles.nearest config.temperature = some config.temperature
  maxTokens : 0 ≤ config.maxTokens ∧ config.maxTokens ≤ 16000

theorem ok_of_bind {ε α β : Type} {x : Except ε α} {f : α → Except ε β} {b : β}
    (h : x >>= f = .ok b) : ∃ a, x = .ok a ∧ f a = .ok b := by
  cases x with
  | error e => cases h
  | ok a => exact ⟨a, rfl, h⟩

theorem atMost_eq_ok {value name result : String} {limit : ℕ} :
    atMost value name limit = .ok result ↔ value.utf8ByteSize ≤ limit ∧ value = result := by
  rw [atMost]
  split_ifs with h
  · constructor
    · rintro ⟨⟩
    · rintro ⟨hshort, -⟩
      omega
  · rw [Except.ok.injEq]
    exact ⟨fun heq => ⟨Nat.le_of_not_gt h, heq⟩, And.right⟩

theorem givenText_of_required {names : List String} {name result : String} {limit : ℕ}
    (h : requiredText decoded names name limit = .ok result) : GivenText result limit := by
  simp only [requiredText] at h
  split at h
  · cases h
  · next hne =>
      obtain ⟨hshort, rfl⟩ := atMost_eq_ok.1 h
      exact ⟨trim_firstNonEmptyString _, hne, hshort⟩

theorem givenText_provider {result : String}
    (h : atMost (providerOf decoded) "provider" 120 = .ok result) : GivenText result 120 := by
  obtain ⟨hshort, rfl⟩ := atMost_eq_ok.1 h
  simp only [providerOf] at hshort ⊢
  split_ifs at hshort ⊢ with hempty
  · exact ⟨by decide +kernel, by decide, hshort⟩
  · exact ⟨trim_trim _, hempty, hshort⟩

/-- The temperature is a double between the bounds; one that is not given is zero. -/
theorem temperatureOf_eq_ok {members : Object} {temperature : ℚ}
    (hdecoded : unmarshalObject (.object members) = some decoded)
    (h : temperatureOf decoded = .ok temperature) :
    (0 ≤ temperature ∧ temperature ≤ 2) ∧ Doubles.nearest temperature = some temperature := by
  simp only [temperatureOf] at h
  split at h
  · cases h
  · next number hnumber =>
      split at h
      · cases h
      · next hbounds =>
          cases h
          rw [not_or, not_lt, not_lt] at hbounds
          refine ⟨hbounds, ?_⟩
          cases hfield : field decoded "temperature" with
          | nil =>
              rw [hfield] at hnumber
              cases hnumber
              exact Doubles.nearest_zero
          | float64 q =>
              rw [hfield] at hnumber
              cases hnumber
              rw [field] at hfield
              cases hget : get decoded "temperature" with
              | none =>
                  rw [hget] at hfield
                  cases hfield
              | some value =>
                  rw [hget, Option.getD_some] at hfield
                  subst hfield
                  rw [get_unmarshalObject hdecoded] at hget
                  obtain ⟨document, -, hdocument⟩ := Option.bind_eq_some_iff.1 hget
                  obtain ⟨x, hx⟩ := nearest_of_unmarshal hdocument
                  exact Doubles.nearest_nearest hx
          | _ =>
              rw [hfield] at hnumber
              cases hnumber

theorem maxTokensOf_eq_ok {maxTokens : ℤ} (h : maxTokensOf decoded = .ok maxTokens) :
    0 ≤ maxTokens ∧ maxTokens ≤ 16000 := by
  simp only [maxTokensOf] at h
  split at h
  · cases h
  · split at h
    · cases h
    · cases h
      omega

theorem parseAIConfig_object (members : Object) :
    parseAIConfig (some (.object members)) =
      match unmarshalObject (.object members) with
      | none => .error "ai_config_json must be a valid JSON object"
      | some decoded => parseDecoded decoded := rfl

/-- What is accepted is an object that can be decoded. -/
theorem exists_decoded (h : parseAIConfig raw = .ok config) :
    ∃ members decoded, raw = some (.object members) ∧
      unmarshalObject (.object members) = some decoded ∧ parseDecoded decoded = .ok config := by
  match raw with
  | none => cases h
  | some .null => cases h
  | some (.object members) =>
      rw [parseAIConfig_object] at h
      cases hdecoded : unmarshalObject (.object members) with
      | none =>
          rw [hdecoded] at h
          cases h
      | some decoded =>
          rw [hdecoded] at h
          exact ⟨members, decoded, rfl, hdecoded, h⟩
  | some (.bool _) => cases h
  | some (.integer _) => cases h
  | some (.decimal _) => cases h
  | some (.string _) => cases h
  | some (.array _) => cases h

/-- Each setting is what its check gives. -/
structure AIConfig.ParsedFrom (config : AIConfig) (decoded : List (String × Value)) : Prop where
  endpoint : requiredText decoded ["api_url", "endpoint", "base_url"] "api_url" 2048 =
    .ok config.apiURL
  token : requiredText decoded ["api_token", "token", "api_key"] "api_token" 4096 =
    .ok config.apiToken
  model : requiredText decoded ["model", "model_name"] "model" 255 = .ok config.model
  provider : atMost (providerOf decoded) "provider" 120 = .ok config.provider
  systemPrompt : atMost (trim (stringValue (field decoded "system_prompt"))) "system_prompt" 8000 =
    .ok config.systemPrompt
  temperature : temperatureOf decoded = .ok config.temperature
  maxTokens : maxTokensOf decoded = .ok config.maxTokens
  enabled : optionalBool (field decoded "enabled") true = config.enabled

theorem parseDecoded_eq_ok : parseDecoded decoded = .ok config ↔ config.ParsedFrom decoded := by
  constructor
  · intro h
    rw [parseDecoded] at h
    obtain ⟨endpoint, hendpoint, h⟩ := ok_of_bind h
    obtain ⟨token, htoken, h⟩ := ok_of_bind h
    obtain ⟨model, hmodel, h⟩ := ok_of_bind h
    obtain ⟨provider, hprovider, h⟩ := ok_of_bind h
    obtain ⟨prompt, hprompt, h⟩ := ok_of_bind h
    obtain ⟨temperature, htemperature, h⟩ := ok_of_bind h
    obtain ⟨maxTokens, hmaxTokens, h⟩ := ok_of_bind h
    cases h
    exact ⟨hendpoint, htoken, hmodel, hprovider, hprompt, htemperature, hmaxTokens, rfl⟩
  · intro h
    rw [parseDecoded, h.endpoint, h.token, h.model, h.provider, h.systemPrompt, h.temperature,
      h.maxTokens, h.enabled]
    rfl

/-- **What is accepted passes the checks.** -/
theorem checked_of_parse (h : parseAIConfig raw = .ok config) : config.Checked := by
  obtain ⟨members, decoded, -, hdecoded, hparse⟩ := exists_decoded h
  have hfrom := parseDecoded_eq_ok.1 hparse
  obtain ⟨hshort, hprompt⟩ := atMost_eq_ok.1 hfrom.systemPrompt
  obtain ⟨hbounds, hdouble⟩ := temperatureOf_eq_ok hdecoded hfrom.temperature
  exact
    { provider := givenText_provider hfrom.provider
      apiURL := givenText_of_required hfrom.endpoint
      apiToken := givenText_of_required hfrom.token
      model := givenText_of_required hfrom.model
      promptTrimmed := by rw [← hprompt, trim_trim]
      promptShort := by rwa [← hprompt]
      temperature := hbounds
      double := hdouble
      maxTokens := maxTokensOf_eq_ok hfrom.maxTokens }

end Accepted

/-! ### What is written is read as it was -/

section RoundTrip

variable {config : AIConfig} {decoded : List (String × Value)}

theorem nodup_rows (config : AIConfig) : (config.rows.map Prod.fst).Nodup := by
  simp [AIConfig.rows]

/-- All that is written can be decoded. -/
theorem AIConfig.Checked.isSome_unmarshal (h : config.Checked) :
    (unmarshalObject config.marshal).isSome = true := by
  rw [AIConfig.marshal, unmarshalObject, Option.isSome_map, isSome_unmarshalMembers]
  have htemperature : |config.temperature| ≤ 2 ^ 53 := by
    rw [abs_of_nonneg h.temperature.1]
    exact h.temperature.2.trans (by norm_num)
  have hmaxTokens : |config.maxTokens| ≤ 2 ^ 53 := by
    have := h.maxTokens
    rw [abs_le]
    omega
  have hrows : ∀ e ∈ config.rows, ∀ value ∈ e.2, (unmarshal value).isSome = true := by
    simp only [AIConfig.rows, omitEmpty, List.forall_mem_cons]
    refine ⟨?_, ?_, ?_, ?_, ?_, ?_, ?_, ?_, nofun⟩
    all_goals
      intro value hvalue
      try split at hvalue
      all_goals cases hvalue
    all_goals try rfl
    · rw [unmarshal_printNumber h.double htemperature]
      rfl
    · rw [unmarshal, Doubles.nearest_intCast hmaxTokens]
      rfl
  exact Members.forall_mem_given hrows

/-- What is read of a field that was written. -/
theorem field_marshal (hdecoded : unmarshalObject config.marshal = some decoded) (name : String) :
    field decoded name = (((get config.rows name).join).bind unmarshal).getD .nil := by
  rw [field, get_unmarshalObject hdecoded, Members.get_given (nodup_rows config)]

/-- A text that was written first is read first. -/
theorem requiredText_of_field {first name value : String} {names : List String} {limit : ℕ}
    (hfield : field decoded first = .string value) (hvalue : GivenText value limit) :
    requiredText decoded (first :: names) name limit = .ok value := by
  have hfirst : firstNonEmptyString
      ((first :: names).map fun name => stringValue (field decoded name)) = value := by
    rw [List.map_cons, hfield, stringValue, hvalue.trimmed]
    exact firstNonEmptyString_cons _ hvalue.nonempty hvalue.trimmed
  rw [requiredText, hfirst, if_neg hvalue.nonempty]
  exact atMost_eq_ok.2 ⟨hvalue.short, rfl⟩

theorem temperatureOf_marshal (h : config.Checked)
    (hdecoded : unmarshalObject config.marshal = some decoded) :
    temperatureOf decoded = .ok config.temperature := by
  have hbound : |config.temperature| ≤ 2 ^ 53 := by
    rw [abs_of_nonneg h.temperature.1]
    exact h.temperature.2.trans (by norm_num)
  have hnumber : optionalFloat (field decoded "temperature") = some config.temperature := by
    rw [field_marshal hdecoded]
    by_cases hzero : config.temperature = 0
    · simp [AIConfig.rows, Members.get, List.lookup_cons, omitEmpty, hzero, optionalFloat]
    · simp [AIConfig.rows, Members.get, List.lookup_cons, omitEmpty, hzero,
        unmarshal_printNumber h.double hbound, optionalFloat]
  have hbounds : ¬(config.temperature < 0 ∨ config.temperature > 2) := by
    rw [not_or, not_lt, not_lt]
    exact h.temperature
  rw [temperatureOf, hnumber]
  exact if_neg hbounds

theorem maxTokensOf_marshal (h : config.Checked)
    (hdecoded : unmarshalObject config.marshal = some decoded) :
    maxTokensOf decoded = .ok config.maxTokens := by
  have hrange := h.maxTokens
  have hdouble : Doubles.nearest config.maxTokens = some (config.maxTokens : ℚ) := by
    refine Doubles.nearest_intCast ?_
    rw [abs_le]
    omega
  have hnumber : optionalInt (field decoded "max_tokens") = some config.maxTokens := by
    rw [field_marshal hdecoded]
    by_cases hzero : config.maxTokens = 0
    · simp [AIConfig.rows, Members.get, omitEmpty, hzero, optionalInt]
    · simp [AIConfig.rows, Members.get, omitEmpty, hzero, unmarshal, hdouble, optionalInt]
      omega
  rw [maxTokensOf, hnumber]
  exact if_neg (by omega)

/-- **What is written is read as it was.** -/
theorem parseAIConfig_marshal (h : config.Checked) :
    parseAIConfig (some config.marshal) = .ok config := by
  obtain ⟨decoded, hdecoded⟩ := Option.isSome_iff_exists.1 h.isSome_unmarshal
  have hfield := field_marshal hdecoded
  have hfrom : config.ParsedFrom decoded := by
    refine
      { endpoint := requiredText_of_field ?_ h.apiURL
        token := requiredText_of_field ?_ h.apiToken
        model := requiredText_of_field ?_ h.model
        provider := atMost_eq_ok.2 ?_
        systemPrompt := atMost_eq_ok.2 ?_
        temperature := temperatureOf_marshal h hdecoded
        maxTokens := maxTokensOf_marshal h hdecoded
        enabled := ?_ }
    · rw [hfield]
      simp [AIConfig.rows, Members.get, List.lookup_cons, unmarshal]
    · rw [hfield]
      simp [AIConfig.rows, Members.get, List.lookup_cons, unmarshal]
    · rw [hfield]
      simp [AIConfig.rows, Members.get, List.lookup_cons, unmarshal]
    · have hprovider : providerOf decoded = config.provider := by
        rw [providerOf, hfield]
        simp [AIConfig.rows, Members.get, List.lookup_cons, unmarshal, stringValue,
          h.provider.trimmed, h.provider.nonempty]
      rw [hprovider]
      exact ⟨h.provider.short, rfl⟩
    · have hprompt : trim (stringValue (field decoded "system_prompt")) = config.systemPrompt := by
        rw [hfield]
        by_cases hempty : config.systemPrompt = ""
        · simp [AIConfig.rows, Members.get, List.lookup_cons, omitEmpty, hempty, stringValue]
        · simp [AIConfig.rows, Members.get, List.lookup_cons, omitEmpty, hempty, unmarshal,
            stringValue, h.promptTrimmed]
      rw [hprompt]
      exact ⟨h.promptShort, rfl⟩
    · rw [hfield]
      simp [AIConfig.rows, Members.get, List.lookup_cons, unmarshal, optionalBool]
  have hparse : parseAIConfig (some config.marshal) = parseDecoded decoded := by
    rw [AIConfig.marshal] at hdecoded ⊢
    rw [parseAIConfig_object, hdecoded]
  exact hparse.trans (parseDecoded_eq_ok.2 hfrom)

end RoundTrip

/-! ### The law holds -/

/-- **A role that may not see the token is shown the same of definitions that differ in nothing else,
and a normalised configuration is normalised to itself.** -/
theorem secrecyLaw (β : Type) : SecrecyLaw β where
  secret := by
    rintro definition definition' ⟨hconfig, hrest⟩ role hrole
    rw [sanitizeDefinitionForRole, sanitizeDefinitionForRole, hrole, if_neg Bool.false_ne_true,
      if_neg Bool.false_ne_true, ← sanitizeAIConfigJSON_congr hconfig, ← hrest]
  stable := by
    intro botType raw normalized h
    rw [normalizeDefinitionAIConfig] at h ⊢
    split_ifs at h ⊢ with hai
    · exact h
    · cases hparse : parseAIConfig raw with
      | error e =>
          rw [hparse] at h
          cases h
      | ok config =>
          rw [hparse] at h
          cases h
          rw [parseAIConfig_marshal (checked_of_parse hparse)]
          rfl

end Bots
