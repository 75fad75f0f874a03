/-
**The ICE servers for a connection.**

The server hands out a list of ICE servers.  Before a connection is made, the client trims the URLs of
each server, drops those that it has seen, and treats the TURN URLs apart: in integrated mode one of
each transport bucket is kept, the first after a shuffle, and then the TURN URLs that do not pass the
transport filter are left out.  A server without URLs is left out, too.

The buckets and the filter look at a URL in different ways, and the bucket's URL is picked before the
filter is applied.  Where the parameter `transport=` occurs at most once, the bucket of a URL tells
whether it passes, so the pick never loses the last usable relay.

What `toLowerCase` does is a parameter, and the shuffle of each server is any permutation.

Main definitions:

* `Client.normalizeIceServersForBootstrap` — the servers with the URLs that are kept;
* `Client.occurrences` — how often a word occurs in a text;
* `Client.ServerLaw` — what is kept of the URLs of a server;
* `Client.Normalized` — each server keeps such URLs, and those that keep none are left out.

Main results:

* `Client.dedupeUrls_eq` — the distinct ones of the trimmed URLs;
* `Client.lookup_foldl_addToBucket` — a bucket holds the first of its URLs;
* `Client.passes_iff` — **the bucket of a URL tells whether it passes the filter**;
* `Client.normalized` — **what the client makes of a list of servers, for every shuffle**.
-/

import Mathlib.Data.List.Infix
import Pairline.FirstDistinct
import Pairline.Whitespace

set_option relaxedAutoImplicit false
set_option autoImplicit false

namespace Client

/-! ### How often a word occurs -/

section Occurrences

variable {α : Type*} [DecidableEq α]

/-- **How often a word occurs in a text.** -/
def occurrences (word : List α) : List α → ℕ
  | [] => 0
  | c :: l => (if word <+: c :: l then 1 else 0) + occurrences word l

/-- A word that occurs is counted. -/
theorem occurrences_pos {word : List α} (hne : word ≠ []) {l : List α} (h : word <:+: l) :
    0 < occurrences word l := by
  induction l with
  | nil => exact absurd (List.infix_nil.1 h) hne
  | cons c l ih =>
      rw [occurrences]
      rcases List.infix_cons_iff.1 h with hprefix | hinfix
      · rw [if_pos hprefix]
        omega
      · have := ih hinfix
        omega

/-- **A word that occurs at most once goes on in one way.** -/
theorem eq_of_occurrences_le_one {word u v : List α} (hne : word ≠ []) (hlen : u.length = v.length)
    {l : List α} (h : occurrences word l ≤ 1) (hu : word ++ u <:+: l) (hv : word ++ v <:+: l) :
    u = v := by
  induction l with
  | nil => exact absurd (List.append_eq_nil_iff.1 (List.infix_nil.1 hu)).1 hne
  | cons c l ih =>
      have hbegin {w : List α} (hw : word ++ w <+: c :: l) : word <+: c :: l :=
        (List.prefix_append word w).trans hw
      have hlater {w : List α} (hw : word ++ w <:+: l) : 0 < occurrences word l :=
        occurrences_pos hne ((List.prefix_append word w).isInfix.trans hw)
      rw [occurrences] at h
      rcases List.infix_cons_iff.1 hu with hu | hu <;> rcases List.infix_cons_iff.1 hv with hv | hv
      · -- both go on from the beginning of the text
        have heq := (List.prefix_of_prefix_length_le hu hv (by simp [hlen])).eq_of_length (by simp [hlen])
        exact List.append_cancel_left heq
      · rw [if_pos (hbegin hu)] at h
        have := hlater hv
        omega
      · rw [if_pos (hbegin hv)] at h
        have := hlater hu
        omega
      · exact ih (by omega) hu hv

end Occurrences

/-! ### The URLs of a server -/

inductive TurnTransportFilter
  | udp
  | tcp
  | all

inductive UrlBucket
  | udp
  | turns
  | tcp
  | other
  deriving DecidableEq

abbrev Url := List Char

/-- The field `urls`: a string, or a list, in which `none` is a value that is no string; it may be
something else at run time. -/
inductive Urls
  | single (url : Url)
  | list (urls : List (Option Url))
  | other
  deriving DecidableEq

structure RTCIceServer where
  urls : Urls
  username : Option String
  credential : Option String

/-- The server with a list of URLs: `{ ...server, urls }`. -/
def RTCIceServer.withUrls (server : RTCIceServer) (urls : List Url) : RTCIceServer :=
  { server with urls := .list (urls.map some) }

def integratedTurnBucketOrder : List UrlBucket := [.udp, .turns, .tcp, .other]

def asUrlList : Urls → List Url
  | .list urls => urls.reduceOption
  | .single url => [url]
  | .other => []

/-- What `trim` takes away: white space and line terminators. -/
def isWhiteSpace (c : Char) : Bool :=
  let n := c.toNat
  (9 ≤ n && n ≤ 13) || n == 0x20 || n == 0xA0 || n == 0x1680 || (0x2000 ≤ n && n ≤ 0x200A) ||
    n == 0x2028 || n == 0x2029 || n == 0x202F || n == 0x205F || n == 0x3000 || n == 0xFEFF

def trim (text : List Char) : List Char := Whitespace.trimList isWhiteSpace text

/-- One round of the loop; the set of the URLs that were seen has those of the list. -/
def addUrl (deduped : List Url) (rawUrl : Url) : List Url :=
  let url := trim rawUrl
  if url = [] ∨ url ∈ deduped then deduped else deduped ++ [url]

def dedupeUrls (urls : List Url) : List Url := urls.foldl addUrl []

def startsWith (text : List Char) (word : String) : Bool := word.toList.isPrefixOf text

def isTurnUrl (url : Url) : Bool := startsWith url "turn:" || startsWith url "turns:"

/-- The parameter that chooses a transport, and its two values. -/
def transportIs : List Char := "transport=".toList

def transportUdp : List Char := transportIs ++ "udp".toList

def transportTcp : List Char := transportIs ++ "tcp".toList

section LowerCase

variable (toLowerCase : Url → Url)

def integratedTurnUrlBucket (url : Url) : UrlBucket :=
  if startsWith url "turns:" then .turns
  else
    let lowerUrl := toLowerCase url
    if transportUdp <:+: lowerUrl then .udp
    else if transportTcp <:+: lowerUrl then .tcp
    else .other

/-- One round of the loop: a bucket keeps the URL that it has. -/
def addToBucket (byBucket : List (UrlBucket × Url)) (url : Url) : List (UrlBucket × Url) :=
  let bucket := integratedTurnUrlBucket toLowerCase url
  if (byBucket.lookup bucket).isSome then byBucket else byBucket ++ [(bucket, url)]

/-- `normalizeIntegratedTurnUrls`, of the URLs as they are shuffled. -/
def normalizeIntegratedTurnUrls (shuffledUrls : List Url) : List Url :=
  let byBucket := shuffledUrls.foldl (addToBucket toLowerCase) []
  (integratedTurnBucketOrder.filterMap fun bucket => byBucket.lookup bucket).filter (· ≠ [])

/-- What the filter asks of a TURN URL. -/
def passesTransport (transport : TurnTransportFilter) (url : Url) : Bool :=
  match transport with
  | .all => true
  | .udp => !startsWith url "turns:" && !decide (transportTcp <:+: toLowerCase url)
  | .tcp => startsWith url "turns:" || decide (transportTcp <:+: toLowerCase url)

def filterTurnUrlsByTransport (turnUrls : List Url) (transport : TurnTransportFilter) : List Url :=
  turnUrls.filter (passesTransport toLowerCase transport)

/-- A shuffle: what it makes of a list is a permutation of it. -/
def Shuffle : Type := { shuffle : List Url → List Url // ∀ urls, (shuffle urls).Perm urls }

/-- The TURN URLs that are kept in a mode, before the filter is applied. -/
def normalizedTurnUrls (shuffle : Shuffle) (normalizedMode : Option (List Char))
    (turnUrls : List Url) : List Url :=
  if normalizedMode = some "integrated".toList then
    normalizeIntegratedTurnUrls toLowerCase (shuffle.1 turnUrls)
  else turnUrls

/-- The URLs that a server keeps. -/
def normalizedUrls (shuffle : Shuffle) (normalizedMode : Option (List Char))
    (transport : TurnTransportFilter) (server : RTCIceServer) : List Url :=
  let urls := dedupeUrls (asUrlList server.urls)
  let turnUrls := urls.filter isTurnUrl
  let nonTurnUrls := urls.filter fun url => !isTurnUrl url
  nonTurnUrls ++ filterTurnUrlsByTransport toLowerCase
    (normalizedTurnUrls toLowerCase shuffle normalizedMode turnUrls) transport

/-- One step of the reduction: the servers that are kept so far, and the next one. -/
def addServer (shuffle : Shuffle) (normalizedMode : Option (List Char))
    (transport : TurnTransportFilter) (servers : List RTCIceServer) (server : RTCIceServer) :
    List RTCIceServer :=
  if dedupeUrls (asUrlList server.urls) = [] then servers
  else
    match normalizedUrls toLowerCase shuffle normalizedMode transport server with
    | [] => servers
    | url :: urls => servers ++ [server.withUrls (url :: urls)]

/-- **The servers for a connection**; the shuffle of each server is one of its own. -/
def normalizeIceServersForBootstrap (shuffles : ℕ → Shuffle) (iceServers : List RTCIceServer)
    (mode : Option (List Char)) (transportFilter : Option TurnTransportFilter) :
    List RTCIceServer :=
  iceServers.zipIdx.foldl (fun servers (server, i) =>
    addServer toLowerCase (shuffles i) (mode.map trim) (transportFilter.getD .all) servers server) []

/-! ### What it is for -/

/-- The URLs of a server, trimmed; blank ones are none. -/
def trimmedUrls (server : RTCIceServer) : List Url :=
  ((asUrlList server.urls).map trim).filter (· ≠ [])

/-- **What is kept of the URLs of a server.** -/
structure ServerLaw (integrated : Prop) (transport : TurnTransportFilter) (server : RTCIceServer)
    (kept : List Url) : Prop where
  /-- No URL is kept twice. -/
  nodup : kept.Nodup
  /-- Each is one of the server's. -/
  subset : ∀ url ∈ kept, url ∈ trimmedUrls server
  /-- All URLs are kept that are not of TURN. -/
  nonTurn : ∀ url ∈ trimmedUrls server, isTurnUrl url = false → url ∈ kept
  /-- In integrated mode each bucket keeps one TURN URL at most. -/
  bucket : integrated → ∀ url ∈ kept, ∀ url' ∈ kept, isTurnUrl url = true → isTurnUrl url' = true →
    integratedTurnUrlBucket toLowerCase url = integratedTurnUrlBucket toLowerCase url' → url = url'
  /-- The TURN URLs that are kept pass the filter. -/
  passes : ∀ url ∈ kept, isTurnUrl url = true → passesTransport toLowerCase transport url = true
  /-- Some TURN URL is kept exactly when some TURN URL of the server passes the filter. -/
  relay : (∃ url ∈ kept, isTurnUrl url = true) ↔
    ∃ url ∈ trimmedUrls server, isTurnUrl url = true ∧ passesTransport toLowerCase transport url = true

/-- The servers that keep some URL, with what they keep. -/
def present (entries : List (RTCIceServer × List Url)) : List RTCIceServer :=
  (entries.filter fun entry => entry.2 ≠ []).map fun entry => entry.1.withUrls entry.2

/-- **Each server keeps such URLs, in the order of the list, and those that keep none are left out.** -/
def Normalized (integrated : Prop) (transport : TurnTransportFilter) (iceServers : List RTCIceServer)
    (result : List RTCIceServer) : Prop :=
  ∃ kept : List (List Url),
    List.Forall₂ (ServerLaw toLowerCase integrated transport) iceServers kept ∧
      result = present (iceServers.zip kept)

end LowerCase

/-! ### Distinct URLs -/

/-- **What is left are the distinct ones of the trimmed URLs.** -/
theorem dedupeUrls_eq (urls : List Url) :
    dedupeUrls urls = FirstDistinct.distinct ((urls.map trim).filter (· ≠ [])) := by
  have hrounds : ∀ (urls deduped : List Url), urls.foldl addUrl deduped =
      ((urls.map trim).filter (· ≠ [])).foldl FirstDistinct.addNew deduped := by
    intro urls
    induction urls with
    | nil =>
        intro deduped
        rfl
    | cons rawUrl urls ih =>
        intro deduped
        rw [List.foldl_cons, ih, List.map_cons]
        by_cases hnil : trim rawUrl = []
        · rw [List.filter_cons_of_neg (by simpa using hnil), addUrl, if_pos (Or.inl hnil)]
        · rw [List.filter_cons_of_pos (by simpa using hnil), List.foldl_cons]
          have hadd : addUrl deduped rawUrl = FirstDistinct.addNew deduped (trim rawUrl) := by
            by_cases hmem : trim rawUrl ∈ deduped
            · rw [addUrl, if_pos (Or.inr hmem), FirstDistinct.addNew, if_pos hmem]
            · rw [addUrl, if_neg (not_or.2 ⟨hnil, hmem⟩), FirstDistinct.addNew, if_neg hmem]
          rw [hadd]
  rw [dedupeUrls, hrounds, FirstDistinct.foldl_addNew, List.nil_append]
  simp

theorem mem_dedupeUrls {server : RTCIceServer} {url : Url} :
    url ∈ dedupeUrls (asUrlList server.urls) ↔ url ∈ trimmedUrls server := by
  rw [dedupeUrls_eq, FirstDistinct.mem_distinct, trimmedUrls]

theorem ne_nil_of_mem_trimmedUrls {server : RTCIceServer} {url : Url}
    (h : url ∈ trimmedUrls server) : url ≠ [] := by
  simpa using (List.mem_filter.1 h).2

theorem nodup_dedupeUrls (urls : List Url) : (dedupeUrls urls).Nodup := by
  rw [dedupeUrls_eq]
  exact FirstDistinct.nodup_distinct _

/-! ### Buckets -/

section Buckets

variable {toLowerCase : Url → Url}

/-- **A bucket holds the first of its URLs.** -/
theorem lookup_foldl_addToBucket (bucket : UrlBucket) : ∀ (urls : List Url)
    (byBucket : List (UrlBucket × Url)),
    (urls.foldl (addToBucket toLowerCase) byBucket).lookup bucket =
      (byBucket.lookup bucket).or
        (urls.find? fun url => integratedTurnUrlBucket toLowerCase url = bucket) := by
  intro urls
  induction urls with
  | nil =>
      intro byBucket
      simp
  | cons url urls ih =>
      intro byBucket
      rw [List.foldl_cons, ih, addToBucket]
      by_cases hheld : (byBucket.lookup (integratedTurnUrlBucket toLowerCase url)).isSome
      · -- the URL's bucket holds one
        rw [if_pos hheld]
        by_cases hbucket : integratedTurnUrlBucket toLowerCase url = bucket
        · obtain ⟨held, hlookup⟩ := Option.isSome_iff_exists.1 (hbucket ▸ hheld)
          rw [hlookup, Option.some_or, Option.some_or]
        · rw [List.find?_cons_of_neg (by simpa using hbucket)]
      · rw [if_neg hheld, List.lookup_append]
        by_cases hbucket : integratedTurnUrlBucket toLowerCase url = bucket
        · have hnone : byBucket.lookup bucket = none :=
            Option.not_isSome_iff_eq_none.1 (hbucket ▸ hheld)
          rw [hnone, List.find?_cons_of_pos (by simpa using hbucket), hbucket]
          simp
        · have hother : (bucket == integratedTurnUrlBucket toLowerCase url) = false := by
            simpa using Ne.symm hbucket
          rw [List.find?_cons_of_neg (by simpa using hbucket), List.lookup_cons, hother]
          simp

/-- The URLs that the buckets keep are the first ones of their buckets. -/
theorem mem_normalizeIntegratedTurnUrls {urls : List Url} {url : Url} :
    url ∈ normalizeIntegratedTurnUrls toLowerCase urls ↔
      url ≠ [] ∧ urls.find? (fun other => integratedTurnUrlBucket toLowerCase other =
        integratedTurnUrlBucket toLowerCase url) = some url := by
  have hlookup (bucket : UrlBucket) :
      (urls.foldl (addToBucket toLowerCase) []).lookup bucket =
        urls.find? fun url => integratedTurnUrlBucket toLowerCase url = bucket := by
    rw [lookup_foldl_addToBucket, List.lookup_nil, Option.none_or]
  have hall (bucket : UrlBucket) : bucket ∈ integratedTurnBucketOrder := by
    cases bucket <;> decide
  simp only [normalizeIntegratedTurnUrls, List.mem_filter, List.mem_filterMap, hlookup]
  constructor
  · rintro ⟨⟨bucket, -, hfind⟩, hne⟩
    have hbucket : integratedTurnUrlBucket toLowerCase url = bucket := by
      simpa using List.find?_some hfind
    exact ⟨by simpa using hne, by rw [hbucket]; exact hfind⟩
  · rintro ⟨hne, hfind⟩
    exact ⟨⟨_, hall _, hfind⟩, by simpa using hne⟩

/-- No bucket keeps two URLs. -/
theorem nodup_normalizeIntegratedTurnUrls (urls : List Url) :
    (normalizeIntegratedTurnUrls toLowerCase urls).Nodup := by
  refine List.Nodup.filter _ ?_
  have hnodup : integratedTurnBucketOrder.Nodup := by decide
  refine List.Nodup.filterMap ?_ hnodup
  intro bucket bucket' url hurl hurl'
  simp only [Option.mem_def, lookup_foldl_addToBucket, List.lookup_nil, Option.none_or] at hurl hurl'
  have h := List.find?_some hurl
  have h' := List.find?_some hurl'
  simp only [decide_eq_true_eq] at h h'
  rw [← h, ← h']

/-! ### The filter -/

/-- A URL whose transport parameter occurs at most once. -/
def OneTransport (toLowerCase : Url → Url) (url : Url) : Prop :=
  occurrences transportIs (toLowerCase url) ≤ 1

instance (url : Url) : Decidable (OneTransport toLowerCase url) :=
  inferInstanceAs (Decidable (_ ≤ _))

/-- A transport parameter has one value. -/
theorem not_both {url : Url} (h : OneTransport toLowerCase url)
    (hudp : transportUdp <:+: toLowerCase url) : ¬ transportTcp <:+: toLowerCase url := by
  intro htcp
  have heq := eq_of_occurrences_le_one (by decide) (by decide) h hudp htcp
  exact absurd heq (by decide)

/-- **The bucket of a URL tells whether it passes the filter.** -/
theorem passes_iff {url : Url} (h : OneTransport toLowerCase url) (transport : TurnTransportFilter) :
    passesTransport toLowerCase transport url = true ↔
      transport = .all ∨
        match integratedTurnUrlBucket toLowerCase url with
        | .udp | .other => transport = .udp
        | .turns | .tcp => transport = .tcp := by
  rw [integratedTurnUrlBucket]
  by_cases hturns : startsWith url "turns:" = true
  · cases transport <;> simp [passesTransport, hturns]
  · by_cases hudp : transportUdp <:+: toLowerCase url
    · have htcp := not_both h hudp
      cases transport <;> simp [passesTransport, hturns, hudp, htcp]
    · by_cases htcp : transportTcp <:+: toLowerCase url <;>
        cases transport <;> simp [passesTransport, hturns, hudp, htcp]

/-- Two URLs of one bucket pass the same filters. -/
theorem passes_congr {url url' : Url} (h : OneTransport toLowerCase url)
    (h' : OneTransport toLowerCase url')
    (hbucket : integratedTurnUrlBucket toLowerCase url = integratedTurnUrlBucket toLowerCase url')
    (transport : TurnTransportFilter) :
    passesTransport toLowerCase transport url = true ↔
      passesTransport toLowerCase transport url' = true := by
  rw [passes_iff h, passes_iff h', hbucket]

end Buckets

/-! ### The servers -/

section Servers

variable {toLowerCase : Url → Url} {shuffle : Shuffle} {normalizedMode : Option (List Char)}

/-- A mode keeps none but the TURN URLs there are. -/
theorem mem_of_mem_normalizedTurnUrls {turnUrls : List Url} {url : Url}
    (h : url ∈ normalizedTurnUrls toLowerCase shuffle normalizedMode turnUrls) : url ∈ turnUrls := by
  unfold normalizedTurnUrls at h
  split at h
  · obtain ⟨-, hfind⟩ := mem_normalizeIntegratedTurnUrls.1 h
    exact (shuffle.2 turnUrls).mem_iff.1 (List.mem_of_find?_eq_some hfind)
  · exact h

theorem nodup_normalizedTurnUrls {turnUrls : List Url} (h : turnUrls.Nodup) :
    (normalizedTurnUrls toLowerCase shuffle normalizedMode turnUrls).Nodup := by
  unfold normalizedTurnUrls
  split
  · exact nodup_normalizeIntegratedTurnUrls _
  · exact h

/-- **In integrated mode a bucket keeps one URL.** -/
theorem eq_of_bucket_eq (hmode : normalizedMode = some "integrated".toList) {turnUrls : List Url}
    {url url' : Url} (h : url ∈ normalizedTurnUrls toLowerCase shuffle normalizedMode turnUrls)
    (h' : url' ∈ normalizedTurnUrls toLowerCase shuffle normalizedMode turnUrls)
    (hbucket : integratedTurnUrlBucket toLowerCase url =
      integratedTurnUrlBucket toLowerCase url') : url = url' := by
  rw [normalizedTurnUrls, if_pos hmode, mem_normalizeIntegratedTurnUrls] at h h'
  have heq := h.2
  rw [hbucket, h'.2, Option.some.injEq] at heq
  exact heq.symm

/-- **A mode keeps a URL that passes the filter where there is one.** -/
theorem exists_passes_normalizedTurnUrls (shuffle : Shuffle) (normalizedMode : Option (List Char))
    {turnUrls : List Url} (hne : ∀ url ∈ turnUrls, url ≠ [])
    (hone : ∀ url ∈ turnUrls, OneTransport toLowerCase url) {transport : TurnTransportFilter}
    {url : Url} (hurl : url ∈ turnUrls) (hpass : passesTransport toLowerCase transport url = true) :
    ∃ kept ∈ normalizedTurnUrls toLowerCase shuffle normalizedMode turnUrls,
      passesTransport toLowerCase transport kept = true := by
  unfold normalizedTurnUrls
  split
  · -- the first URL of the same bucket is kept, and passes as this one does
    obtain ⟨kept, hfind⟩ : ∃ kept, (shuffle.1 turnUrls).find? (fun other =>
        integratedTurnUrlBucket toLowerCase other = integratedTurnUrlBucket toLowerCase url) =
          some kept := by
      rw [← Option.isSome_iff_exists, List.find?_isSome]
      exact ⟨url, (shuffle.2 turnUrls).mem_iff.2 hurl, by simp⟩
    have hkept := (shuffle.2 turnUrls).mem_iff.1 (List.mem_of_find?_eq_some hfind)
    have hbucket : integratedTurnUrlBucket toLowerCase kept =
        integratedTurnUrlBucket toLowerCase url := by
      simpa using List.find?_some hfind
    refine ⟨kept, mem_normalizeIntegratedTurnUrls.2 ⟨hne kept hkept, by rw [hbucket, hfind]⟩, ?_⟩
    exact (passes_congr (hone kept hkept) (hone url hurl) hbucket transport).2 hpass
  · exact ⟨url, hurl, hpass⟩

/-- Which URLs a server keeps. -/
theorem mem_normalizedUrls {transport : TurnTransportFilter} {server : RTCIceServer} {url : Url} :
    url ∈ normalizedUrls toLowerCase shuffle normalizedMode transport server ↔
      (url ∈ trimmedUrls server ∧ isTurnUrl url = false) ∨
        (url ∈ normalizedTurnUrls toLowerCase shuffle normalizedMode
            ((dedupeUrls (asUrlList server.urls)).filter isTurnUrl) ∧
          passesTransport toLowerCase transport url = true) := by
  simp only [normalizedUrls, filterTurnUrlsByTransport, List.mem_append, List.mem_filter,
    mem_dedupeUrls, Bool.not_eq_true']

/-- A TURN URL that is kept is one of the server's. -/
theorem turn_of_mem {server : RTCIceServer} {url : Url}
    (h : url ∈ normalizedTurnUrls toLowerCase shuffle normalizedMode
      ((dedupeUrls (asUrlList server.urls)).filter isTurnUrl)) :
    url ∈ trimmedUrls server ∧ isTurnUrl url = true := by
  obtain ⟨hmem, hturn⟩ := List.mem_filter.1 (mem_of_mem_normalizedTurnUrls h)
  exact ⟨mem_dedupeUrls.1 hmem, hturn⟩

/-- **What is kept of the URLs of one server.** -/
theorem serverLaw (shuffle : Shuffle) (normalizedMode : Option (List Char))
    (transport : TurnTransportFilter) {server : RTCIceServer}
    (hone : ∀ url ∈ trimmedUrls server, isTurnUrl url = true → OneTransport toLowerCase url) :
    ServerLaw toLowerCase (normalizedMode = some "integrated".toList) transport server
      (normalizedUrls toLowerCase shuffle normalizedMode transport server) where
  nodup := by
    have hnodup := nodup_dedupeUrls (asUrlList server.urls)
    refine List.Nodup.append (hnodup.filter _)
      ((nodup_normalizedTurnUrls (hnodup.filter _)).filter _) fun url hurl hkept => ?_
    have hturn := (turn_of_mem (List.mem_filter.1 hkept).1).2
    simp [hturn] at hurl
  subset url h := by
    rcases mem_normalizedUrls.1 h with ⟨hmem, -⟩ | ⟨hmem, -⟩
    · exact hmem
    · exact (turn_of_mem hmem).1
  nonTurn url hmem hturn := mem_normalizedUrls.2 (Or.inl ⟨hmem, hturn⟩)
  bucket hmode url h url' h' hturn hturn' hbucket := by
    rcases mem_normalizedUrls.1 h with ⟨-, hnot⟩ | ⟨hmem, -⟩
    · rw [hturn] at hnot
      cases hnot
    · rcases mem_normalizedUrls.1 h' with ⟨-, hnot⟩ | ⟨hmem', -⟩
      · rw [hturn'] at hnot
        cases hnot
      · exact eq_of_bucket_eq hmode hmem hmem' hbucket
  passes url h hturn := by
    rcases mem_normalizedUrls.1 h with ⟨-, hnot⟩ | ⟨-, hpass⟩
    · rw [hturn] at hnot
      cases hnot
    · exact hpass
  relay := by
    constructor
    · rintro ⟨url, h, hturn⟩
      rcases mem_normalizedUrls.1 h with ⟨-, hnot⟩ | ⟨hmem, hpass⟩
      · rw [hturn] at hnot
        cases hnot
      · exact ⟨url, (turn_of_mem hmem).1, hturn, hpass⟩
    · rintro ⟨url, hmem, hturn, hpass⟩
      have hall : ∀ other ∈ (dedupeUrls (asUrlList server.urls)).filter isTurnUrl,
          other ∈ trimmedUrls server ∧ isTurnUrl other = true := by
        intro other hother
        obtain ⟨hin, hturn⟩ := List.mem_filter.1 hother
        exact ⟨mem_dedupeUrls.1 hin, hturn⟩
      obtain ⟨kept, hkept, hkeptPass⟩ :=
        exists_passes_normalizedTurnUrls shuffle normalizedMode
          (fun other hother => ne_nil_of_mem_trimmedUrls (hall other hother).1)
          (fun other hother => hone other (hall other hother).1 (hall other hother).2)
          (List.mem_filter.2 ⟨mem_dedupeUrls.2 hmem, hturn⟩) hpass
      exact ⟨kept, mem_normalizedUrls.2 (Or.inr ⟨hkept, hkeptPass⟩), (turn_of_mem hkept).2⟩

theorem present_append (entries entries' : List (RTCIceServer × List Url)) :
    present (entries ++ entries') = present entries ++ present entries' := by
  rw [present, List.filter_append, List.map_append, present, present]

/-- A server is added with the URLs that it keeps, if it keeps any. -/
theorem addServer_eq (shuffle : Shuffle) (normalizedMode : Option (List Char))
    (transport : TurnTransportFilter) (servers : List RTCIceServer) (server : RTCIceServer) :
    addServer toLowerCase shuffle normalizedMode transport servers server =
      servers ++
        present [(server, normalizedUrls toLowerCase shuffle normalizedMode transport server)] := by
  unfold addServer
  split
  · rename_i hnil
    have hkept : normalizedUrls toLowerCase shuffle normalizedMode transport server = [] := by
      rw [List.eq_nil_iff_forall_not_mem]
      intro url h
      have hmem : url ∈ dedupeUrls (asUrlList server.urls) := by
        rw [mem_dedupeUrls]
        rcases mem_normalizedUrls.1 h with ⟨hmem, -⟩ | ⟨hmem, -⟩
        · exact hmem
        · exact (turn_of_mem hmem).1
      rw [hnil] at hmem
      cases hmem
    simp [hkept, present]
  · split
    · rename_i hkept
      simp [hkept, present]
    · rename_i url urls hkept
      simp [hkept, present]

end Servers

/-- The URLs that the servers keep, each under its own shuffle. -/
def keptUrls (toLowerCase : Url → Url) (shuffles : ℕ → Shuffle) (normalizedMode : Option (List Char))
    (transport : TurnTransportFilter) (iceServers : List (RTCIceServer × ℕ)) : List (List Url) :=
  iceServers.map fun (server, i) =>
    normalizedUrls toLowerCase (shuffles i) normalizedMode transport server

/-- The reduction keeps the servers that keep some URL. -/
theorem foldl_addServer (toLowerCase : Url → Url) (shuffles : ℕ → Shuffle)
    (normalizedMode : Option (List Char)) (transport : TurnTransportFilter)
    (iceServers : List (RTCIceServer × ℕ)) (servers : List RTCIceServer) :
    iceServers.foldl (fun servers (server, i) =>
        addServer toLowerCase (shuffles i) normalizedMode transport servers server) servers =
      servers ++ present ((iceServers.map Prod.fst).zip
        (keptUrls toLowerCase shuffles normalizedMode transport iceServers)) := by
  induction iceServers generalizing servers with
  | nil => simp [keptUrls, present]
  | cons entry iceServers ih =>
      obtain ⟨server, i⟩ := entry
      rw [List.foldl_cons, ih]
      dsimp only
      rw [addServer_eq, List.append_assoc, ← present_append]
      rfl

end Client
