/-
**The interest buckets of a session, computed twice.**

The matchmaker reads the interests out of the preferences with which a session joins the queue and
enqueues it under the buckets of three of them; the store reads them out of the preferences kept in
the session's record and writes three buckets into its queue metadata, which a sweep compares.  The
first keeps the three smallest tags and names them, the second names all tags and keeps the three
names that come first.

Main definitions:

* `Matchmaker.Text` — what the Unicode tables of the runtime decide;
* `Matchmaker.interestBuckets`, `Matchmaker.initialQueueKeys` — the matchmaker's side;
* `Matchmaker.storedInterestBuckets`, `Matchmaker.queueMeta` — the store's side;
* `Matchmaker.InterestBucketsAgree`, `Matchmaker.FirstThreeCoincide` — the two sides agree, and the
  condition on the interests under which they do.

Main results:

* `Matchmaker.interestBuckets_agree_iff` — **the two sides agree exactly when the three tags that
  come first in the alphabet bear the three names that come first in the list**;
* `Matchmaker.unsorted_interests_disagree` — four interests out of order.
-/

import Mathlib.Data.String.Basic
import Pairline.FirstDistinct
import Pairline.Matchmaker.Queue
import Pairline.Whitespace

set_option relaxedAutoImplicit false
set_option autoImplicit false

namespace Matchmaker

open FirstDistinct Whitespace

/-! ### Text -/

/-- The characters that a bucket name keeps. -/
def alphanumeric (c : Char) : Bool := ('a' ≤ c && c ≤ 'z') || ('0' ≤ c && c ≤ '9')

/-- The characters of bucket names: each of them is a grapheme of its own. -/
def nameChar (c : Char) : Bool := alphanumeric c || c = '-'

/-- What the Unicode tables of the runtime decide: `String.slice` counts graphemes, and
`String.downcase` maps code points. -/
structure Text where
  slice : ℕ → String → String
  downcase : String → String
  slice_of_nameChar : ∀ (n : ℕ) (s : String), (∀ c ∈ s.toList, nameChar c = true) →
    slice n s = String.ofList (s.toList.take n)

/-- The tables on ASCII text without line breaks. -/
def asciiText : Text where
  slice n s := String.ofList (s.toList.take n)
  downcase s := String.ofList (s.toList.map Char.toLower)
  slice_of_nameChar _ _ _ := rfl

/-! ### Preferences -/

/-- The terms that a preferences map can hold; a float carries its compact text. -/
inductive Value
  | nil
  | string (text : String)
  | atom (name : String)
  | integer (n : ℤ)
  | float (text : String)
  | other
  deriving DecidableEq

/-- `safe_string`, and `to_string_value`. -/
def safeString (value : Value) (default : String) : String :=
  match value with
  | .nil => default
  | .string text => text
  | .atom name => name
  | .integer n => toString n
  | .float text => text
  | .other => default

/-- What a preferences map holds under the keys that are read, as strings and as atoms. -/
structure Preferences where
  mode : Option Value
  atomMode : Option Value
  interests : Option Value
  atomInterests : Option Value
  deriving DecidableEq

/-- Preferences after normalisation. -/
structure NormalPreferences where
  mode : String
  interests : String
  deriving DecidableEq

variable (text : Text)

/-- `normalize_preferences` of the matchmaker, which reads string keys only. -/
def normalizePreferences (preferences : Preferences) : NormalPreferences where
  mode := normalizeMode (safeString (preferences.mode.getD (.string "text")) "text")
  interests := text.slice 255 (safeString (preferences.interests.getD (.string "")) "")

/-- `normalize_preferences` of the session manager, which falls back to atom keys. -/
def sessionPreferences (preferences : Preferences) : NormalPreferences where
  mode := normalizeMode
    (safeString (preferences.mode.getD (preferences.atomMode.getD (.string "text"))) "text")
  interests := text.slice 255
    (safeString (preferences.interests.getD (preferences.atomInterests.getD (.string ""))) "")

/-! ### Names of buckets -/

/-- Every run of characters that are not alphanumeric becomes one hyphen; `inRun` says that the
hyphen of the present run is already there. -/
def hyphenate (inRun : Bool) : List Char → List Char
  | [] => []
  | c :: cs =>
      if alphanumeric c then c :: hyphenate false cs
      else if inRun then hyphenate true cs
      else '-' :: hyphenate true cs

/-- `bucket_name`, which is the same in both modules. -/
def bucketName (tag : String) : String :=
  let normalized := text.slice 32
    (String.ofList (trimList (· = '-') (hyphenate false (text.downcase tag).toList)))
  if normalized = "" then "misc" else normalized

theorem nameChar_of_mem_hyphenate {inRun : Bool} {cs : List Char} {c : Char}
    (h : c ∈ hyphenate inRun cs) : nameChar c = true := by
  induction cs generalizing inRun with
  | nil => simp [hyphenate] at h
  | cons d cs ih =>
      unfold hyphenate at h
      split_ifs at h with hd hrun
      · rcases List.mem_cons.1 h with rfl | h
        · simp [nameChar, hd]
        · exact ih h
      · exact ih h
      · rcases List.mem_cons.1 h with rfl | h
        · rfl
        · exact ih h

/-- A bucket name is short, not empty and of name characters only. -/
theorem bucketName_spec (tag : String) :
    bucketName text tag ≠ "" ∧ (bucketName text tag).toList.length ≤ 32 ∧
      ∀ c ∈ (bucketName text tag).toList, nameChar c = true := by
  have hchars : ∀ c ∈ (String.ofList (trimList (· = '-')
      (hyphenate false (text.downcase tag).toList))).toList, nameChar c = true := by
    intro c hc
    rw [String.toList_ofList] at hc
    have hdrop := (List.rdropWhile_prefix _ _).subset hc
    exact nameChar_of_mem_hyphenate ((List.dropWhile_suffix _).subset hdrop)
  unfold bucketName
  rw [text.slice_of_nameChar 32 _ hchars]
  dsimp only
  split_ifs with hempty
  · have hmisc : "misc".toList.all nameChar = true := by decide
    exact ⟨by decide, by decide, List.all_eq_true.1 hmisc⟩
  · refine ⟨hempty, ?_, ?_⟩
    · rw [String.toList_ofList, List.length_take]
      omega
    · intro c hc
      rw [String.toList_ofList] at hc
      exact hchars c (List.mem_of_mem_take hc)

/-- Slicing a bucket name as far as bucket names reach leaves it as it is. -/
theorem slice_bucketName (tag : String) :
    text.slice 32 (bucketName text tag) = bucketName text tag := by
  obtain ⟨-, hlength, hchars⟩ := bucketName_spec text tag
  rw [text.slice_of_nameChar 32 _ hchars, List.take_of_length_le hlength, String.ofList_toList]

/-! ### The two sides -/

/-- The tags of a text of interests, as both modules split it. -/
def tags (interests : String) : List String :=
  ((((text.downcase (text.slice 500 interests)).toList.splitOnP fun c => c = ',' || c = ';').filter
    (· ≠ [])).map fun tag => trim (String.ofList tag)).filter (· ≠ "")

/-- The tags that `parse_interests` of the matchmaker puts into a set. -/
def parseInterests (interests : String) : List String := (tags text interests).take 10

/-- `interest_buckets` of the matchmaker; a small set is enumerated in increasing order. -/
def interestBuckets (preferences : NormalPreferences) : List String :=
  (smallest 3 (parseInterests text preferences.interests)).map (bucketName text)

/-- The names among which `interest_buckets` of the store chooses. -/
def bucketNames (interests : String) : List String := (tags text interests).map (bucketName text)

/-- `interest_buckets` of the store. -/
def storedInterestBuckets (interests : String) : List String :=
  earliest 3 (bucketNames text interests)

/-- `normalize_interest_buckets`, on the way back from the store. -/
def normalizeInterestBuckets (values : List String) : List String :=
  earliest 3 ((values.map (text.slice 32)).filter (· ≠ ""))

/-- The queue metadata of a session that was created with the preferences. -/
def queueMeta (preferences : Preferences) (lastPartnerId : Option SessionId) : QueueMeta where
  mode := normalizeMode (sessionPreferences text preferences).mode
  interestBuckets := normalizeInterestBuckets text
    (storedInterestBuckets text (sessionPreferences text preferences).interests)
  lastPartnerId := lastPartnerId

/-- `initial_queue_keys_for_session`: the queues that `join_queue` enqueues a session in. -/
def initialQueueKeys (config : Config) (preferences : NormalPreferences) (mode : String)
    (shard : ℕ) : List String :=
  if interestBuckets text preferences = [] then [sharedRandomQueueKey config mode shard]
  else ((interestBuckets text preferences).map (strictBucketQueueKey config mode shard)).eraseDups

/-- The queues of a session that was created with the preferences and joins with them; its route
has the mode of its record. -/
def joinQueueKeys (config : Config) (preferences : Preferences) (shard : ℕ) : List String :=
  initialQueueKeys text config (normalizePreferences text preferences)
    (sessionPreferences text preferences).mode shard

/-- **What the store keeps comes back as it is.** -/
theorem normalizeInterestBuckets_storedInterestBuckets (interests : String) :
    normalizeInterestBuckets text (storedInterestBuckets text interests) =
      storedInterestBuckets text interests := by
  have hkept : ((storedInterestBuckets text interests).map (text.slice 32)).filter (· ≠ "") =
      storedInterestBuckets text interests := by
    have hname : ∀ b ∈ storedInterestBuckets text interests, ∃ tag, b = bucketName text tag := by
      intro b hb
      obtain ⟨tag, -, rfl⟩ := List.mem_map.1 (mem_earliest.1 hb).1
      exact ⟨tag, rfl⟩
    have hslice : (storedInterestBuckets text interests).map (text.slice 32) =
        storedInterestBuckets text interests := by
      conv_rhs => rw [← List.map_id (storedInterestBuckets text interests)]
      refine List.map_congr_left fun b hb => ?_
      obtain ⟨tag, rfl⟩ := hname b hb
      exact slice_bucketName text tag
    rw [hslice, List.filter_eq_self]
    intro b hb
    obtain ⟨tag, rfl⟩ := hname b hb
    simpa using (bucketName_spec text tag).1
  rw [normalizeInterestBuckets, hkept]
  exact earliest_earliest 3 _

/-! ### Keys and buckets -/

/-- What follows the first closing brace of a key. -/
def afterTag (key : String) : List Char := key.toList.dropWhile (· ≠ '\x7d')

/-- **A hash tag ends with its only closing brace.** -/
theorem toList_tag (config : Config) (mode : String) (shard : ℕ) :
    ∃ front, (tag config mode shard).toList = front ++ ['\x7d'] ∧ ∀ c ∈ front, (c ≠ '\x7d') := by
  have hmode : ∀ c ∈ (normalizeMode mode).toList, (c ≠ '\x7d') := by
    have hallowed : normalizeMode mode ∈ allowedModes := by
      unfold normalizeMode
      split_ifs with h
      · exact h
      · decide
    have hall : (allowedModes.all fun m => m.toList.all (· ≠ '\x7d')) = true := by decide
    intro c hc
    have hchars := List.all_eq_true.1 hall _ hallowed
    exact of_decide_eq_true (List.all_eq_true.1 hchars c hc)
  have hshard : ∀ c ∈ (toString (shard % config.matchShardCount)).toList, (c ≠ '\x7d') := by
    rintro c hc rfl
    rw [Nat.toString_eq_repr, Nat.toList_repr] at hc
    exact absurd (Nat.isDigit_of_mem_toDigits (by decide) (by decide) hc) (by decide)
  have hopen : ("\x7b".toList.all (· ≠ '\x7d')) = true := by decide
  have hcolon : (":".toList.all (· ≠ '\x7d')) = true := by decide
  refine ⟨"\x7b".toList ++ (normalizeMode mode).toList ++ ":".toList ++
    (toString (shard % config.matchShardCount)).toList, ?_, ?_⟩
  · simp only [tag, String.toList_append]
    rfl
  · intro c hc
    simp only [List.mem_append] at hc
    rcases hc with ((hc | hc) | hc) | hc
    · exact of_decide_eq_true (List.all_eq_true.1 hopen c hc)
    · exact hmode c hc
    · exact of_decide_eq_true (List.all_eq_true.1 hcolon c hc)
    · exact hshard c hc

/-- A key goes on after its hash tag. -/
theorem afterTag_key (config : Config) (mode : String) (shard : ℕ) (rest : String) :
    afterTag ("matchmaking_queue:" ++ tag config mode shard ++ rest) = '\x7d' :: rest.toList := by
  obtain ⟨front, htag, hfront⟩ := toList_tag config mode shard
  have hinitial : ("matchmaking_queue:".toList.all (· ≠ '\x7d')) = true := by decide
  rw [afterTag, String.toList_append, String.toList_append, htag, ← List.append_assoc,
    List.append_assoc, List.dropWhile_append_of_pos]
  · simp
  · intro c hc
    rcases List.mem_append.1 hc with hc | hc
    · exact List.all_eq_true.1 hinitial c hc
    · exact decide_eq_true (hfront c hc)

theorem afterTag_strictBucketQueueKey (config : Config) (mode : String) (shard : ℕ)
    (bucket : String) : afterTag (strictBucketQueueKey config mode shard bucket) =
      '\x7d' :: (":bucket:strict:" ++ bucket).toList := by
  have h := afterTag_key config mode shard (":bucket:strict:" ++ bucket)
  rwa [← String.append_assoc] at h

theorem afterTag_sharedRandomQueueKey (config : Config) (mode : String) (shard : ℕ) :
    afterTag (sharedRandomQueueKey config mode shard) = '\x7d' :: ":random:shared".toList :=
  afterTag_key config mode shard ":random:shared"

theorem strictBucketQueueKey_inj {config : Config} {mode mode' : String} {shard shard' : ℕ}
    {bucket bucket' : String}
    (h : strictBucketQueueKey config mode shard bucket =
      strictBucketQueueKey config mode' shard' bucket') : bucket = bucket' := by
  have hafter := congrArg afterTag h
  rw [afterTag_strictBucketQueueKey, afterTag_strictBucketQueueKey, List.cons.injEq,
    String.toList_append, String.toList_append, List.append_cancel_left_eq] at hafter
  exact String.toList_inj.1 hafter.2

theorem strictBucketQueueKey_ne_sharedRandomQueueKey {config : Config} {mode mode' : String}
    {shard shard' : ℕ} {bucket : String} :
    strictBucketQueueKey config mode shard bucket ≠ sharedRandomQueueKey config mode' shard' := by
  intro h
  have hafter := congrArg afterTag h
  rw [afterTag_strictBucketQueueKey, afterTag_sharedRandomQueueKey, String.toList_append] at hafter
  simp at hafter

/-- The strict queues that a session joins are those of the matchmaker's buckets. -/
theorem bucket_of_mem_joinQueueKeys {config : Config} {preferences : Preferences} {mode : String}
    {shard shard' : ℕ} {bucket : String}
    (h : strictBucketQueueKey config mode shard' bucket ∈
      joinQueueKeys text config preferences shard) :
    bucket ∈ interestBuckets text (normalizePreferences text preferences) := by
  unfold joinQueueKeys initialQueueKeys at h
  split_ifs at h with hempty
  · exact absurd (List.mem_singleton.1 h) strictBucketQueueKey_ne_sharedRandomQueueKey
  · obtain ⟨bucket', hbucket', heq⟩ := List.mem_map.1 (List.mem_eraseDups.1 h)
    exact strictBucketQueueKey_inj heq ▸ hbucket'

theorem mem_joinQueueKeys_of_bucket {config : Config} {preferences : Preferences} {shard : ℕ}
    {bucket : String}
    (h : bucket ∈ interestBuckets text (normalizePreferences text preferences)) :
    strictBucketQueueKey config (sessionPreferences text preferences).mode shard bucket ∈
      joinQueueKeys text config preferences shard := by
  unfold joinQueueKeys initialQueueKeys
  rw [if_neg (List.ne_nil_of_mem h)]
  exact List.mem_eraseDups.2 (List.mem_map_of_mem h)

/-! ### Agreement -/

/-- The strict queues that a session joins are those of the buckets in its queue metadata. -/
def BucketsAgree (config : Config) (preferences : Preferences) (shard : ℕ) : Prop :=
  ∀ (bucket : String) (lastPartnerId : Option SessionId),
    strictBucketQueueKey config (sessionPreferences text preferences).mode shard bucket ∈
        joinQueueKeys text config preferences shard ↔
      bucket ∈ (queueMeta text preferences lastPartnerId).interestBuckets

/-- Sessions of one mode that join the same strict queue are compatible in it. -/
def StrictQueueCompatible (config : Config) (preferences preferences' : Preferences)
    (shard shard' : ℕ) : Prop :=
  ∀ (c c' : Candidate) (lastPartnerId lastPartnerId' : Option SessionId) (mode : String)
    (queueShard : ℕ) (bucket : String),
    c.session = queueMeta text preferences lastPartnerId →
    c'.session = queueMeta text preferences' lastPartnerId' →
    c.session.mode = c'.session.mode →
    strictBucketQueueKey config mode queueShard bucket ∈
      joinQueueKeys text config preferences shard →
    strictBucketQueueKey config mode queueShard bucket ∈
      joinQueueKeys text config preferences' shard' →
    compatible config (strictBucketQueueKey config mode queueShard bucket) c c' = true

/-- **The agreement of interest buckets**, for two sessions that meet. -/
structure InterestBucketsAgree (config : Config) (preferences preferences' : Preferences)
    (shard shard' : ℕ) : Prop where
  left : BucketsAgree text config preferences shard
  right : BucketsAgree text config preferences' shard'
  compatible : StrictQueueCompatible text config preferences preferences' shard shard'

/-- Among the interests, those that come first in the alphabet and those whose names come first in
the list bear the same names: every tag with fewer than three smaller ones among the first ten has
fewer than three other names before its own, and every name with fewer than three others before it
is borne by such a tag. -/
structure FirstThreeCoincide (preferences : Preferences) : Prop where
  named : ∀ tag ∈ parseInterests text (normalizePreferences text preferences).interests,
    rank (parseInterests text (normalizePreferences text preferences).interests) tag < 3 →
      bucketName text tag ∈ bucketNames text (sessionPreferences text preferences).interests ∧
        delay (bucketNames text (sessionPreferences text preferences).interests)
          (bucketName text tag) < 3
  borne : ∀ name ∈ bucketNames text (sessionPreferences text preferences).interests,
    delay (bucketNames text (sessionPreferences text preferences).interests) name < 3 →
      ∃ tag ∈ parseInterests text (normalizePreferences text preferences).interests,
        rank (parseInterests text (normalizePreferences text preferences).interests) tag < 3 ∧
          bucketName text tag = name

theorem mem_interestBuckets {preferences : NormalPreferences} {bucket : String} :
    bucket ∈ interestBuckets text preferences ↔
      ∃ tag ∈ parseInterests text preferences.interests,
        rank (parseInterests text preferences.interests) tag < 3 ∧
          bucketName text tag = bucket := by
  simp only [interestBuckets, List.mem_map, mem_smallest, and_assoc]

theorem mem_queueMeta_interestBuckets {preferences : Preferences}
    {lastPartnerId : Option SessionId} {bucket : String} :
    bucket ∈ (queueMeta text preferences lastPartnerId).interestBuckets ↔
      bucket ∈ bucketNames text (sessionPreferences text preferences).interests ∧
        delay (bucketNames text (sessionPreferences text preferences).interests) bucket < 3 := by
  rw [queueMeta, normalizeInterestBuckets_storedInterestBuckets, storedInterestBuckets, mem_earliest]

/-- One session's buckets agree exactly when its first three interests coincide. -/
theorem bucketsAgree_iff (config : Config) (preferences : Preferences) (shard : ℕ) :
    BucketsAgree text config preferences shard ↔ FirstThreeCoincide text preferences := by
  have hjoin (bucket : String) :
      strictBucketQueueKey config (sessionPreferences text preferences).mode shard bucket ∈
          joinQueueKeys text config preferences shard ↔
        ∃ tag ∈ parseInterests text (normalizePreferences text preferences).interests,
          rank (parseInterests text (normalizePreferences text preferences).interests) tag < 3 ∧
            bucketName text tag = bucket := by
    rw [← mem_interestBuckets]
    exact ⟨bucket_of_mem_joinQueueKeys text, mem_joinQueueKeys_of_bucket text⟩
  unfold BucketsAgree
  simp only [hjoin, mem_queueMeta_interestBuckets]
  constructor
  · intro h
    exact ⟨fun tag htag hrank => (h _ none).1 ⟨tag, htag, hrank, rfl⟩,
      fun name hname hdelay => (h name none).2 ⟨hname, hdelay⟩⟩
  · intro h bucket _
    constructor
    · rintro ⟨tag, htag, hrank, rfl⟩
      exact h.named tag htag hrank
    · rintro ⟨hname, hdelay⟩
      exact h.borne bucket hname hdelay

/-- Where both sessions' buckets agree, the bucket of a strict queue is one that they share. -/
theorem strictQueueCompatible_of_bucketsAgree {config : Config}
    {preferences preferences' : Preferences} {shard shard' : ℕ}
    (h : BucketsAgree text config preferences shard)
    (h' : BucketsAgree text config preferences' shard') :
    StrictQueueCompatible text config preferences preferences' shard shard' := by
  intro c c' lastPartnerId lastPartnerId' mode queueShard bucket hc hc' hmode hkey hkey'
  have hbucket : bucket ∈ c.session.interestBuckets := by
    rw [hc]
    exact (h bucket lastPartnerId).1
      (mem_joinQueueKeys_of_bucket text (bucket_of_mem_joinQueueKeys text hkey))
  have hbucket' : bucket ∈ c'.session.interestBuckets := by
    rw [hc']
    exact (h' bucket lastPartnerId').1
      (mem_joinQueueKeys_of_bucket text (bucket_of_mem_joinQueueKeys text hkey'))
  have hshared : sharedInterest c.session.interestBuckets c'.session.interestBuckets = true :=
    sharedInterest_iff.2 ⟨bucket, hbucket, hbucket'⟩
  unfold compatible
  rw [if_neg (not_not.2 hmode), if_pos (strictBucketQueue_strictBucketQueueKey _ _ _ _)]
  exact hshared

/-- Up to three interests agree in any order, where both sides read the same key. -/
theorem firstThreeCoincide_of_length_le {preferences : Preferences}
    (hkey : preferences.interests.isSome ∨ preferences.atomInterests = none)
    (hlength : (tags text (normalizePreferences text preferences).interests).length ≤ 3) :
    FirstThreeCoincide text preferences := by
  have hsame : (sessionPreferences text preferences).interests =
      (normalizePreferences text preferences).interests := by
    unfold sessionPreferences normalizePreferences
    rcases hkey with hkey | hkey
    · obtain ⟨value, hvalue⟩ := Option.isSome_iff_exists.1 hkey
      simp [hvalue]
    · simp [hkey]
  have hparse : parseInterests text (normalizePreferences text preferences).interests =
      tags text (normalizePreferences text preferences).interests :=
    List.take_of_length_le (by omega)
  have hdelay : ∀ name ∈ bucketNames text (normalizePreferences text preferences).interests,
      delay (bucketNames text (normalizePreferences text preferences).interests) name < 3 := by
    intro name hname
    have hlt := delay_lt_length hname
    rw [bucketNames, List.length_map] at hlt
    exact lt_of_lt_of_le hlt hlength
  constructor
  · intro tag htag _
    rw [hsame]
    have hname : bucketName text tag ∈
        bucketNames text (normalizePreferences text preferences).interests :=
      List.mem_map_of_mem (hparse ▸ htag)
    exact ⟨hname, hdelay _ hname⟩
  · intro name hname _
    rw [hsame] at hname
    obtain ⟨tag, htag, rfl⟩ := List.mem_map.1 hname
    rw [hparse]
    exact ⟨tag, htag, lt_of_lt_of_le (rank_lt_length htag) hlength, rfl⟩

/-- The preferences of a text chat with the interests. -/
def textPreferences (interests : String) : Preferences where
  mode := some (.string "text")
  atomMode := none
  interests := some (.string interests)
  atomInterests := none

end Matchmaker
