/-
**The address of a client, as the two services read it.**

A request may have come through a proxy, which writes the address of its client into a header.  The
socket of the one service and the handlers of the other each believe these headers if the peer is one of
the trusted proxies, and each reads an address from a text, drops the mapping of an IPv4 address into
IPv6, and prints the address: bans are stored under the text of the one and looked up under the text of
the other.

The headers are not the same.  The handlers look at the headers of the content delivery network first;
the socket asks for these too, but the list that it is given holds only headers whose name begins with
`x-`.  The socket goes through all values of a header to the first that is an address, the handlers take
the first value; and a text that is not valid UTF-8 raises in the socket.

How the two languages read and print addresses is a parameter, of which only the documented is used.

Main definitions:

* `Sockets.ClientIP.Libraries`, `Sockets.ClientIP.Libraries.Documented` — the two libraries;
* `Sockets.ClientIP.extractIp` — **the address that the socket assigns**;
* `Sockets.ClientIP.Handlers.getRequestClientIP` — **the address that the handlers use**;
* `Sockets.ClientIP.AddressLaw` — they are one text, which is normalised;
* `Sockets.ClientIP.SameReading` — the two lists of texts lead to one address.

Main results:

* `Sockets.ClientIP.trustedProxy?_eq` — the two services trust the same peers;
* `Sockets.ClientIP.extractIp_eq`, `Sockets.ClientIP.Handlers.getRequestClientIP_eq` — what each of them
  computes, from the texts that it looks at;
* `Sockets.ClientIP.addressLaw_iff` — **the law holds exactly when these lead to one address, which is
  printed alike**;
* `Sockets.ClientIP.addressLaw_fails` — the header of the content delivery network is not seen.
-/

import Pairline.ByteSpace
import Pairline.JsonText
import Pairline.Sockets.Cidr
import Pairline.Utf8
import Pairline.Whitespace

set_option relaxedAutoImplicit false
set_option autoImplicit false

namespace Sockets

open ByteSpace (trimSpace)
open Numerals (cut digits?)
open Utf8 (encode runes)
open Whitespace (isSpace trimList)

/-- `unmap_ipv4`, and `Unmap` of the other library: an IPv4 address that was mapped into IPv6. -/
def Address.unmap : Address → Address
  | .v4 a b c d => .v4 a b c d
  | .v6 a b c d e f ab cd =>
      if [a, b, c, d, e] = [0, 0, 0, 0, 0] ∧ f = 0xFFFF then
        .v4 (ab >>> 8).toUInt8 (ab &&& 0xFF).toUInt8 (cd >>> 8).toUInt8 (cd &&& 0xFF).toUInt8
      else .v6 a b c d e f ab cd

@[simp] theorem Address.unmap_unmap (a : Address) : a.unmap.unmap = a.unmap := by
  cases a with
  | v4 a b c d => rfl
  | v6 a b c d e f ab cd =>
      by_cases h : [a, b, c, d, e] = [0, 0, 0, 0, 0] ∧ f = 0xFFFF
      · simp only [unmap, if_pos h]
      · simp only [unmap, if_neg h]

namespace ClientIP

/-- The bytes of a text, which need not be valid UTF-8. -/
abbrev Text := List UInt8

/-! ### The libraries -/

/-- `netip.Addr`: an address, and the zone that it is in; no zone is the empty text. -/
structure Addr where
  address : Address
  zone : Text
  /-- Addresses of IPv4 are in no zone. -/
  zone_eq_nil : address.width = 32 → zone = []
  deriving DecidableEq

namespace Addr

def ofAddress (a : Address) : Addr := ⟨a, [], fun _ => rfl⟩

/-- `Unmap`, which drops the zone of a mapped address. -/
def unmap (x : Addr) : Addr := if x.address.unmap = x.address then x else ofAddress x.address.unmap

@[simp] theorem unmap_ofAddress (a : Address) : (ofAddress a).unmap = ofAddress a.unmap := by
  by_cases h : a.unmap = a
  · simp only [unmap, ofAddress, h, if_true]
  · simp only [unmap, ofAddress, h, if_false]

@[simp] theorem unmap_unmap (x : Addr) : x.unmap.unmap = x.unmap := by
  by_cases h : x.address.unmap = x.address
  · simp only [unmap, h, if_true]
  · have hunmap : x.unmap = ofAddress x.address.unmap := if_neg h
    rw [hunmap, unmap_ofAddress, Address.unmap_unmap]

/-- An address in no zone. -/
theorem eq_ofAddress {x : Addr} (h : x.zone = []) : x = ofAddress x.address := by
  cases x with
  | mk a zone hz =>
      cases h
      rfl

end Addr

/-- **How addresses are read and printed** by the two languages. -/
structure Libraries where
  /-- `:inet.parse_address`. -/
  parseAddress : List Char → Option Address
  /-- `:inet.ntoa`. -/
  ntoa : Address → List Char
  /-- `netip.ParseAddr`. -/
  parseAddr : Text → Option Addr
  /-- `String` of `netip.Addr`. -/
  string : Addr → Text

/-- The bytes of an address: hexadecimal digits, dots and colons. -/
def IsAddressByte (byte : UInt8) : Prop :=
  (0x30 ≤ byte.toNat ∧ byte.toNat ≤ 0x39) ∨ (0x41 ≤ byte.toNat ∧ byte.toNat ≤ 0x46) ∨
    (0x61 ≤ byte.toNat ∧ byte.toNat ≤ 0x66) ∨ byte = 0x2E ∨ byte = 0x3A

instance (byte : UInt8) : Decidable (IsAddressByte byte) :=
  inferInstanceAs (Decidable (_ ∨ _ ∨ _ ∨ _ ∨ _))

/-- **What is documented**: each library reads what it prints, and the first reads all addresses that
the second reads, but for those in a zone, which is written after a percent sign. -/
structure Libraries.Documented (lib : Libraries) : Prop where
  parse_ntoa : ∀ a, lib.parseAddress (lib.ntoa a) = some a
  parse_string : ∀ x : Addr, lib.parseAddr (lib.string x.unmap) = some x.unmap
  parse_nil : lib.parseAddr [] = none
  parse_of_parse : ∀ text a, lib.parseAddr (encode text) = some (.ofAddress a) →
    lib.parseAddress text = some a
  alphabet : ∀ text a, lib.parseAddr text = some (.ofAddress a) → ∀ byte ∈ text, IsAddressByte byte
  percent : ∀ x : Addr, x.zone ≠ [] → 0x25 ∈ lib.string x
  no_percent : ∀ a, 0x25 ∉ encode (lib.ntoa a)

/-- The two languages print an address alike. -/
def PrintedAlike (lib : Libraries) (a : Address) : Prop :=
  encode (lib.ntoa a) = lib.string (.ofAddress a)

/-! ### Requests -/

/-- A header; its name is ASCII, and is compared without regard to case. -/
structure Header where
  name : List Char
  value : Text

def Header.Named (header : Header) (name : String) : Prop :=
  header.name.map Char.toLower = name.toList.map Char.toLower

instance (header : Header) (name : String) : Decidable (header.Named name) :=
  inferInstanceAs (Decidable (_ = _))

/-- A request: the address and the port of the peer, and the headers in their order. -/
structure Request where
  peer : Address
  port : ℕ
  headers : List Header

/-- The value of `TRUSTED_PROXY_CIDRS`. -/
abbrev Env := Option (List Char)

/-! ### The socket -/

/-- What the process raises. -/
inductive Fault
  | raised (r : Raised)
  | unicodeConversionError

structure ConnectInfo where
  peerData : Option Address
  xHeaders : List Header

/-- `connect_info: [:peer_data, :x_headers]`; of the headers only those whose name begins with `x-`. -/
def Request.connectInfo (request : Request) : ConnectInfo where
  peerData := some request.peer
  xHeaders := request.headers.filter fun header =>
    "x-".toList.isPrefixOf (header.name.map Char.toLower)

/-- `String.to_charlist`. -/
def toCharlist (text : Text) : Except Fault (List Char) :=
  if none ∈ runes text then .error .unicodeConversionError else .ok ((runes text).filterMap id)

def blankToNil (value : Text) : Option Text := if value = [] then none else some value

def trustedProxyRanges : Env → List (List Char)
  | none | some [] => ["127.0.0.1/32".toList, "::1/128".toList]
  | some (c :: cidrs) => ((c :: cidrs).splitOn ',').map (trimList isSpace)

section Socket

variable (lib : Libraries)

def normalizeIp (value : Text) : Except Fault (Option Text) := do
  let chars ← toCharlist value
  return (lib.parseAddress chars).map fun address => encode (lib.ntoa address.unmap)

def maybeNormalizeIp (value : Option Text) (normalize : Bool) : Except Fault (Option Text) :=
  match value with
  | none => .ok none
  | some value => if normalize then normalizeIp lib value else .ok (some value)

def getHeader (xHeaders : List Header) (headerName : String) (normalize : Bool) :
    Except Fault (Option Text) :=
  xHeaders.findSomeM? fun header =>
    if header.Named headerName then
      maybeNormalizeIp lib (blankToNil (trimSpace header.value)) normalize
    else .ok none

def getForwardedForIp (xHeaders : List Header) : Except Fault (Option Text) := do
  match ← getHeader lib xHeaders "x-forwarded-for" false with
  | none => return none
  | some forwardedFor =>
      maybeNormalizeIp lib (blankToNil (trimSpace ((forwardedFor.splitOn 0x2C).headD []))) true

def trustedProxy? (env : Env) (peerIp : Text) : Except Fault Bool :=
  (trustedProxyRanges env).anyM fun cidr => do
    let chars ← toCharlist peerIp
    (cidrMatch? lib.parseAddress chars cidr).mapError .raised

/-- The first of the four that is found, and none of the others is looked for. -/
def forwardedIp (xHeaders : List Header) : Except Fault (Option Text) :=
  [getHeader lib xHeaders "cf-connecting-ipv6" true, getHeader lib xHeaders "cf-connecting-ip" true,
    getHeader lib xHeaders "x-real-ip" true, getForwardedForIp lib xHeaders].findSomeM? id

/-- The address of the peer. -/
def peerIp (connectInfo : ConnectInfo) : Except Fault Text :=
  match connectInfo.peerData with
  | some address =>
      (normalizeIp lib (encode (lib.ntoa address))).map fun ip => ip.getD (encode "unknown".toList)
  | none => .ok (encode "unknown".toList)

/-- **The address that the socket assigns.** -/
def extractIp (env : Env) (connectInfo : ConnectInfo) : Except Fault Text := do
  let peerIp ← peerIp lib connectInfo
  match ← forwardedIp lib connectInfo.xHeaders with
  | some forwarded =>
      let trusted ← trustedProxy? lib env peerIp
      return if trusted then forwarded else peerIp
  | none => return peerIp

end Socket

/-! ### The handlers -/

/-- `netip.Prefix` after `Masked`: the width of the family, and the bits that are not masked out. -/
structure Prefix where
  width : ℕ
  bits : List Bool

/-- `Contains`. -/
def Prefix.Contains (p : Prefix) (addr : Addr) : Prop :=
  addr.zone = [] ∧ addr.address.width = p.width ∧ addr.address.bits.take p.bits.length = p.bits

instance (p : Prefix) (addr : Addr) : Decidable (p.Contains addr) :=
  inferInstanceAs (Decidable (_ ∧ _ ∧ _))

/-- `net.JoinHostPort`. -/
def joinHostPort (host port : Text) : Text :=
  if 0x3A ∈ host then 0x5B :: host ++ 0x5D :: 0x3A :: port else host ++ 0x3A :: port

/-- `net.SplitHostPort`: the host in brackets, or free of colons. -/
def splitHostPort : Text → Option (Text × Text)
  | 0x5B :: rest =>
      match cut 0x5D rest with
      | some (host, 0x3A :: port) =>
          if 0x3A ∉ port ∧ 0x5B ∉ rest ∧ 0x5D ∉ port then some (host, port) else none
      | _ => none
  | hostport =>
      match hostport.splitOn 0x3A with
      | [host, port] => if 0x5B ∉ hostport ∧ 0x5D ∉ hostport then some (host, port) else none
      | _ => none

namespace Handlers

variable (lib : Libraries)

/-- `RemoteAddr`, which the server writes; `net.IP` prints a mapped address as one of IPv4. -/
def remoteAddr (request : Request) : Text :=
  joinHostPort (lib.string (.ofAddress request.peer.unmap)) (encode (toString request.port).toList)

/-- `GetHeader`: the first value, or the empty text. -/
def getHeader (headers : List Header) (name : String) : Text :=
  ((headers.find? fun header => header.Named name).map Header.value).getD []

def normalizeIP (raw : Text) : Text :=
  if raw = [] then []
  else
    match lib.parseAddr (trimSpace raw) with
    | none => []
    | some addr => lib.string addr.unmap

def firstForwardedIP (header : Text) : Text :=
  if header = [] then [] else trimSpace ((header.splitOn 0x2C).headD [])

def parseRemoteIP (remoteAddr : Text) : Text :=
  let host := match splitHostPort (trimSpace remoteAddr) with
    | some (host, _) => host
    | none => trimSpace remoteAddr
  if normalizeIP lib host ≠ [] then normalizeIP lib host else host

/-- `netip.ParsePrefix`, and `Masked`; the length is cut off at the last slash, and has no sign and no
leading zero. -/
def parsePrefix (s : List Char) : Option Prefix :=
  match cut '/' s.reverse with
  | none => none
  | some (bitsRev, ipRev) =>
      match lib.parseAddr (encode ipRev.reverse) with
      | none => none
      | some ip =>
          if ip.zone ≠ [] then none
          else if 1 < bitsRev.length ∧ bitsRev.reverse.head? = some '0' then none
          else
            match digits? bitsRev.reverse with
            | none => none
            | some n =>
                if ip.address.width < n then none
                else some ⟨ip.address.width, ip.address.bits.take n⟩

def trustedProxyPrefixes (env : Env) : List Prefix :=
  let raw := if env.getD [] = [] then "127.0.0.1/32,::1/128".toList else env.getD []
  (raw.splitOn ',').filterMap fun part => parsePrefix lib (trimList isSpace part)

def isTrustedProxyIP (env : Env) (raw : Text) : Bool :=
  match lib.parseAddr (trimSpace raw) with
  | none => false
  | some addr => (trustedProxyPrefixes lib env).any fun p => p.Contains addr.unmap

/-- The texts that are looked at, in their order. -/
def candidates (headers : List Header) : List Text :=
  [getHeader headers "CF-Connecting-IPv6", getHeader headers "CF-Connecting-IP",
    getHeader headers "X-Real-IP", firstForwardedIP (getHeader headers "X-Forwarded-For")]

/-- **The address that the handlers use.** -/
def getRequestClientIP (env : Env) (request : Request) : Text :=
  let peerIP := parseRemoteIP lib (remoteAddr lib request)
  if isTrustedProxyIP lib env peerIP then
    ((candidates request.headers).findSome? fun candidate =>
      let normalized := normalizeIP lib candidate
      if normalized ≠ [] then some normalized else none).getD peerIP
  else peerIP

end Handlers

/-! ### What is required of them -/

section Spec

variable (lib : Libraries) (env : Env)

/-- **The socket assigns the text that the handlers use, and this is normalised.** -/
def AddressLaw (request : Request) : Prop :=
  ∃ ip, extractIp lib env request.connectInfo = .ok ip ∧
    Handlers.getRequestClientIP lib env request = ip ∧ Handlers.normalizeIP lib ip = ip

/-- Every entry of the list of trusted proxies is a range. -/
def ValidRanges : Prop :=
  ∀ cidr ∈ trustedProxyRanges env, (Handlers.parsePrefix lib cidr).isSome

/-- The address lies in a range of the trusted proxies. -/
def Trusted (a : Address) : Prop :=
  ∃ p ∈ Handlers.trustedProxyPrefixes lib env, p.Contains (.ofAddress a)

instance (a : Address) : Decidable (Trusted lib env a) :=
  inferInstanceAs (Decidable (∃ p ∈ _, _))

/-- The values of a header that are not blank. -/
def values (headers : List Header) (name : String) : List Text :=
  ((headers.filter fun header => header.Named name).map fun header => trimSpace header.value).filter
    fun value => value ≠ []

/-- The texts that the socket looks at: every `X-Real-IP`, and the beginning of the first
`X-Forwarded-For`. -/
def shown (headers : List Header) : List Text :=
  values headers "x-real-ip" ++
    ((values headers "x-forwarded-for").head?.map fun value =>
      trimSpace ((value.splitOn 0x2C).headD [])).toList.filter fun value => value ≠ []

/-- What the socket reads: in the first text that is an address, if those before it are UTF-8. -/
def socketReads (headers : List Header) : Except Fault (Option Address) :=
  (shown headers).findSomeM? fun text =>
    (toCharlist text).map fun chars => (lib.parseAddress chars).map Address.unmap

/-- What the handlers read: in the first text that is an address. -/
def handlersRead (headers : List Header) : Option Addr :=
  (Handlers.candidates headers).findSome? fun text => (lib.parseAddr (trimSpace text)).map Addr.unmap

/-- **Both lists of texts lead to one address, which is printed alike**; the lists matter if the peer is
trusted, and an address that is not found in them is the peer's. -/
def SameReading (request : Request) : Prop :=
  let peer := request.peer.unmap
  ∃ reads, socketReads lib request.headers = .ok reads ∧
    if Trusted lib env peer then
      (handlersRead lib request.headers).getD (.ofAddress peer) = .ofAddress (reads.getD peer) ∧
        PrintedAlike lib (reads.getD peer)
    else PrintedAlike lib peer

end Spec

/-! ### Searches that may raise -/

section Search

variable {α : Type*} {ε β γ : Type} {f : α → Except ε (Option β)}

theorem findSomeM?_cons_error {a : α} {e : ε} (h : f a = .error e) (l : List α) :
    (a :: l).findSomeM? f = .error e := by
  rw [List.findSomeM?_cons, h]
  rfl

theorem findSomeM?_cons_none {a : α} (h : f a = .ok none) (l : List α) :
    (a :: l).findSomeM? f = l.findSomeM? f := by
  rw [List.findSomeM?_cons, h]
  rfl

theorem findSomeM?_cons_some {a : α} {b : β} (h : f a = .ok (some b)) (l : List α) :
    (a :: l).findSomeM? f = .ok (some b) := by
  rw [List.findSomeM?_cons, h]
  rfl

/-- The second search, if the first one finds nothing. -/
def orSearch (first second : Except ε (Option β)) : Except ε (Option β) :=
  [first, second].findSomeM? id

theorem orSearch_error (e : ε) (second : Except ε (Option β)) : orSearch (.error e) second = .error e :=
  rfl

theorem orSearch_some (b : β) (second : Except ε (Option β)) :
    orSearch (.ok (some b)) second = .ok (some b) := rfl

theorem orSearch_none (second : Except ε (Option β)) : orSearch (.ok none) second = second := by
  rcases second with e | _ | b <;> rfl

/-- One list is searched after the other. -/
theorem findSomeM?_append (l l' : List α) :
    (l ++ l').findSomeM? f = orSearch (l.findSomeM? f) (l'.findSomeM? f) := by
  induction l with
  | nil => exact (orSearch_none _).symm
  | cons a l ih =>
      rw [List.cons_append]
      rcases ha : f a with e | _ | b
      · rw [findSomeM?_cons_error ha, findSomeM?_cons_error ha, orSearch_error]
      · rw [findSomeM?_cons_none ha, findSomeM?_cons_none ha, ih]
      · rw [findSomeM?_cons_some ha, findSomeM?_cons_some ha, orSearch_some]

theorem findSomeM?_singleton (a : α) : [a].findSomeM? f = f a := by
  rcases ha : f a with e | _ | b
  · exact findSomeM?_cons_error ha []
  · exact findSomeM?_cons_none ha []
  · exact findSomeM?_cons_some ha []

/-- What is found may be changed afterwards. -/
theorem findSomeM?_map (g : β → γ) (l : List α) :
    (l.findSomeM? fun a => (f a).map (Option.map g)) = (l.findSomeM? f).map (Option.map g) := by
  induction l with
  | nil => rfl
  | cons a l ih =>
      cases ha : f a with
      | error e =>
          rw [findSomeM?_cons_error ha, findSomeM?_cons_error (e := e) (by rw [ha]; rfl)]
          rfl
      | ok found =>
          cases found with
          | none =>
              rw [findSomeM?_cons_none ha, findSomeM?_cons_none (by rw [ha]; rfl), ih]
          | some b =>
              rw [findSomeM?_cons_some ha, findSomeM?_cons_some (b := g b) (by rw [ha]; rfl)]
              rfl

end Search

/-! ### Reading and printing -/

@[simp] theorem toCharlist_encode (l : List Char) : toCharlist (encode l) = .ok l := by
  have hnone : none ∉ l.map some := by simp
  rw [toCharlist, Utf8.runes_encode, if_neg hnone, List.filterMap_map]
  simp

section Libraries

variable {lib : Libraries} (h : lib.Documented)

include h

/-- An address that is printed and read again is the same. -/
theorem normalizeIp_ntoa (a : Address) :
    normalizeIp lib (encode (lib.ntoa a)) = .ok (some (encode (lib.ntoa a.unmap))) := by
  rw [normalizeIp, toCharlist_encode]
  show Except.ok ((lib.parseAddress (lib.ntoa a)).map _) = _
  rw [h.parse_ntoa, Option.map_some]

theorem peerIp_eq (request : Request) :
    peerIp lib request.connectInfo = .ok (encode (lib.ntoa request.peer.unmap)) := by
  simp only [peerIp, Request.connectInfo, normalizeIp_ntoa h]
  rfl

/-- An address is printed as some text. -/
theorem string_ne_nil (x : Addr) : lib.string x.unmap ≠ [] := by
  intro hnil
  have hparse := h.parse_string x
  rw [hnil, h.parse_nil] at hparse
  cases hparse

theorem string_visible (a : Address) :
    ∀ byte ∈ lib.string (.ofAddress a.unmap), IsAddressByte byte := by
  have hparse := h.parse_string (.ofAddress a)
  rw [Addr.unmap_ofAddress] at hparse
  exact h.alphabet _ _ hparse

/-- **Two printed addresses are one text only if they are one address, in no zone.** -/
theorem encode_ntoa_eq_string_iff {a : Address} (ha : a.unmap = a) {x : Addr} (hx : x.unmap = x) :
    encode (lib.ntoa a) = lib.string x ↔ x = .ofAddress a ∧ PrintedAlike lib a := by
  constructor
  · intro heq
    have hzone : x.zone = [] := by
      by_contra hne
      exact h.no_percent a (heq ▸ h.percent x hne)
    have hparse : lib.parseAddr (encode (lib.ntoa a)) = some (.ofAddress x.address) := by
      rw [heq, ← Addr.eq_ofAddress hzone, ← hx]
      exact h.parse_string x
    have hread := h.parse_of_parse _ _ hparse
    rw [h.parse_ntoa] at hread
    cases hread
    have hof := Addr.eq_ofAddress hzone
    exact ⟨hof, by rw [PrintedAlike, ← hof]; exact heq⟩
  · rintro ⟨rfl, halike⟩
    exact halike

end Libraries

/-! ### White space around addresses -/

theorem IsAddressByte.visible {byte : UInt8} (h : IsAddressByte byte) :
    0x20 < byte.toNat ∧ byte.toNat < 0x80 := by
  rcases h with h | h | h | rfl | rfl
  · omega
  · omega
  · omega
  · decide
  · decide

/-- The bytes of a number. -/
theorem digit_of_mem_port {n : ℕ} {byte : UInt8} (h : byte ∈ encode (toString n).toList) :
    0x30 ≤ byte.toNat ∧ byte.toNat ≤ 0x39 := by
  obtain ⟨c, hc, hbyte⟩ := List.mem_flatMap.1 h
  have hdigit := Numerals.toNat_of_isDigit (Numerals.isDigit_of_mem_toString hc)
  rw [Utf8.toNat_of_mem_utf8EncodeChar (by omega) hbyte]
  exact hdigit

section Remote

variable {lib : Libraries} (h : lib.Documented)

include h

theorem trimSpace_string (a : Address) :
    trimSpace (lib.string (.ofAddress a.unmap)) = lib.string (.ofAddress a.unmap) :=
  ByteSpace.trimSpace_eq_self fun byte hbyte => (string_visible h a byte hbyte).visible

/-- **The host of the peer is found in the text of its address and port.** -/
theorem splitHostPort_remoteAddr (request : Request) :
    splitHostPort (Handlers.remoteAddr lib request) =
      some (lib.string (.ofAddress request.peer.unmap), encode (toString request.port).toList) := by
  have hnot (byte : UInt8) (hb : ¬ IsAddressByte byte) :
      byte ∉ lib.string (.ofAddress request.peer.unmap) :=
    fun hmem => hb (string_visible h request.peer byte hmem)
  have hport (byte : UInt8) (hb : ¬ (0x30 ≤ byte.toNat ∧ byte.toNat ≤ 0x39)) :
      byte ∉ encode (toString request.port).toList := fun hmem => hb (digit_of_mem_port hmem)
  have hopen := hnot 0x5B (by decide)
  have hclose := hnot 0x5D (by decide)
  have hopen' := hport 0x5B (by decide)
  have hclose' := hport 0x5D (by decide)
  have hcolon' := hport 0x3A (by decide)
  have hne : lib.string (.ofAddress request.peer.unmap) ≠ [] := by
    have hstring := string_ne_nil h (.ofAddress request.peer)
    rwa [Addr.unmap_ofAddress] at hstring
  clear hnot hport
  rw [Handlers.remoteAddr, joinHostPort]
  generalize lib.string (.ofAddress request.peer.unmap) = host at *
  generalize encode (toString request.port).toList = port at *
  by_cases hcolon : (0x3A : UInt8) ∈ host
  · -- an address of IPv6, in brackets
    rw [if_pos hcolon, List.cons_append, splitHostPort, Numerals.cut_append hclose]
    have hrest : (0x5B : UInt8) ∉ host ++ 0x5D :: 0x3A :: port := by simp [hopen, hopen']
    exact if_pos ⟨hcolon', hrest, hclose'⟩
  · rw [if_neg hcolon]
    cases host with
    | nil => exact absurd rfl hne
    | cons byte host =>
        simp only [List.mem_cons, not_or] at hopen hclose
        rw [List.cons_append, splitHostPort.eq_2 _ (by simpa using Ne.symm hopen.1), ← List.cons_append,
          Numerals.splitOn_eq_pair_iff.2 ⟨rfl, hcolon, hcolon'⟩]
        refine if_pos ⟨?_, ?_⟩
        · simp [hopen, hopen']
        · simp [hclose, hclose']

theorem trimSpace_remoteAddr (request : Request) :
    trimSpace (Handlers.remoteAddr lib request) = Handlers.remoteAddr lib request := by
  apply ByteSpace.trimSpace_eq_self
  have hhost := fun byte hbyte => (string_visible h request.peer byte hbyte).visible
  have hport : ∀ byte ∈ encode (toString request.port).toList,
      0x20 < byte.toNat ∧ byte.toNat < 0x80 := by
    intro byte hbyte
    have hdigit := digit_of_mem_port hbyte
    omega
  intro byte hbyte
  rw [Handlers.remoteAddr, joinHostPort] at hbyte
  split_ifs at hbyte
  · simp only [List.cons_append, List.mem_cons, List.mem_append] at hbyte
    rcases hbyte with rfl | hbyte | rfl | rfl | hbyte
    · decide
    · exact hhost byte hbyte
    · decide
    · decide
    · exact hport byte hbyte
  · simp only [List.mem_cons, List.mem_append] at hbyte
    rcases hbyte with hbyte | rfl | hbyte
    · exact hhost byte hbyte
    · decide
    · exact hport byte hbyte

end Remote

/-! ### The headers of the socket -/

section Headers

variable (lib : Libraries)

theorem values_cons_of_not {header : Header} {name : String} (h : ¬ header.Named name)
    (headers : List Header) : values (header :: headers) name = values headers name := by
  rw [values, List.filter_cons_of_neg (by simpa using h), values]

theorem values_cons_of_blank {header : Header} {name : String} (h : header.Named name)
    (hblank : trimSpace header.value = []) (headers : List Header) :
    values (header :: headers) name = values headers name := by
  rw [values, List.filter_cons_of_pos (by simpa using h), List.map_cons, hblank,
    List.filter_cons_of_neg (by simp), values]

theorem values_cons_of_text {header : Header} {name : String} (h : header.Named name)
    (htext : trimSpace header.value ≠ []) (headers : List Header) :
    values (header :: headers) name = trimSpace header.value :: values headers name := by
  rw [values, List.filter_cons_of_pos (by simpa using h), List.map_cons,
    List.filter_cons_of_pos (by simpa using htext), values]

/-- **A header that is read as an address is looked for in all its values.** -/
theorem getHeader_true (headers : List Header) (name : String) :
    getHeader lib headers name true = (values headers name).findSomeM? (normalizeIp lib) := by
  induction headers with
  | nil => rfl
  | cons header headers ih =>
      by_cases hname : header.Named name
      · by_cases hblank : trimSpace header.value = []
        · rw [values_cons_of_blank hname hblank, ← ih]
          refine findSomeM?_cons_none ?_ headers
          rw [if_pos hname, blankToNil, if_pos hblank, maybeNormalizeIp]
        · have hhead : (if header.Named name then
              maybeNormalizeIp lib (blankToNil (trimSpace header.value)) true else .ok none) =
              normalizeIp lib (trimSpace header.value) := by
            rw [if_pos hname, blankToNil, if_neg hblank, maybeNormalizeIp, if_pos rfl]
          rw [values_cons_of_text hname hblank]
          rcases hread : normalizeIp lib (trimSpace header.value) with e | _ | ip
          · rw [findSomeM?_cons_error hread]
            refine findSomeM?_cons_error ?_ headers
            exact hhead.trans hread
          · rw [findSomeM?_cons_none hread, ← ih]
            refine findSomeM?_cons_none ?_ headers
            exact hhead.trans hread
          · rw [findSomeM?_cons_some hread]
            refine findSomeM?_cons_some ?_ headers
            exact hhead.trans hread
      · rw [values_cons_of_not hname, ← ih]
        refine findSomeM?_cons_none ?_ headers
        exact if_neg hname

/-- A header that is not read is the first of its values that is not blank. -/
theorem getHeader_false (headers : List Header) (name : String) :
    getHeader lib headers name false = .ok (values headers name).head? := by
  induction headers with
  | nil => rfl
  | cons header headers ih =>
      by_cases hname : header.Named name
      · by_cases hblank : trimSpace header.value = []
        · rw [values_cons_of_blank hname hblank, ← ih]
          refine findSomeM?_cons_none ?_ headers
          rw [if_pos hname, blankToNil, if_pos hblank, maybeNormalizeIp]
        · rw [values_cons_of_text hname hblank]
          refine findSomeM?_cons_some ?_ headers
          rw [if_pos hname, blankToNil, if_neg hblank, maybeNormalizeIp]
          rfl
      · rw [values_cons_of_not hname, ← ih]
        refine findSomeM?_cons_none ?_ headers
        exact if_neg hname

/-- The headers whose name begins with `x-` are handed on, and no others. -/
theorem values_connectInfo (request : Request) (name : String) :
    values request.connectInfo.xHeaders name =
      if "x-".toList.isPrefixOf (name.toList.map Char.toLower) then values request.headers name
      else [] := by
  have hname : ∀ header : Header, header.Named name →
      "x-".toList.isPrefixOf (header.name.map Char.toLower) =
        "x-".toList.isPrefixOf (name.toList.map Char.toLower) := by
    intro header h
    rw [h]
  simp only [values, Request.connectInfo, List.filter_filter]
  split_ifs with hx
  · congr 2
    apply List.filter_congr
    intro header _
    by_cases h : header.Named name
    · rw [hname header h, hx, Bool.and_true]
    · simp [h]
  · have hnone : request.headers.filter (fun header => decide (header.Named name) &&
        "x-".toList.isPrefixOf (header.name.map Char.toLower)) = [] := by
      rw [List.filter_eq_nil_iff]
      intro header _
      by_cases h : header.Named name
      · rw [hname header h, Bool.eq_false_iff.2 hx]
        simp
      · simp [h]
    rw [hnone]
    rfl

/-- **The socket goes through the texts that it is shown.** -/
theorem forwardedIp_eq (request : Request) :
    forwardedIp lib request.connectInfo.xHeaders =
      (shown request.headers).findSomeM? (normalizeIp lib) := by
  have hv6 : getHeader lib request.connectInfo.xHeaders "cf-connecting-ipv6" true = .ok none := by
    rw [getHeader_true, values_connectInfo, if_neg (by decide)]
    rfl
  have hv4 : getHeader lib request.connectInfo.xHeaders "cf-connecting-ip" true = .ok none := by
    rw [getHeader_true, values_connectInfo, if_neg (by decide)]
    rfl
  have hreal : getHeader lib request.connectInfo.xHeaders "x-real-ip" true =
      (values request.headers "x-real-ip").findSomeM? (normalizeIp lib) := by
    rw [getHeader_true, values_connectInfo, if_pos (by decide)]
  have hfor : getForwardedForIp lib request.connectInfo.xHeaders =
      (((values request.headers "x-forwarded-for").head?.map fun value =>
        trimSpace ((value.splitOn 0x2C).headD [])).toList.filter fun value => value ≠ []).findSomeM?
          (normalizeIp lib) := by
    rw [getForwardedForIp, getHeader_false, values_connectInfo, if_pos (by decide)]
    cases (values request.headers "x-forwarded-for").head? with
    | none => rfl
    | some value =>
        show maybeNormalizeIp lib (blankToNil (trimSpace ((value.splitOn 0x2C).headD []))) true = _
        rw [Option.map_some, Option.toList_some]
        by_cases hblank : trimSpace ((value.splitOn 0x2C).headD []) = []
        · rw [hblank]
          rfl
        · rw [blankToNil, if_neg hblank, maybeNormalizeIp, if_pos rfl,
            List.filter_cons_of_pos (by simpa using hblank), List.filter_nil, findSomeM?_singleton]
  rw [forwardedIp, hv6, hv4, hreal, hfor, findSomeM?_cons_none (f := id) rfl,
    findSomeM?_cons_none (f := id) rfl, shown,
    findSomeM?_append]
  rfl

/-- What the socket finds is what it reads, as it prints it. -/
theorem forwardedIp_eq_map (request : Request) :
    forwardedIp lib request.connectInfo.xHeaders =
      (socketReads lib request.headers).map (Option.map fun a => encode (lib.ntoa a)) := by
  rw [forwardedIp_eq, socketReads, ← findSomeM?_map]
  congr 1
  funext text
  rw [normalizeIp]
  cases toCharlist text with
  | error e => rfl
  | ok chars =>
      show Except.ok ((lib.parseAddress chars).map _) =
        Except.ok (((lib.parseAddress chars).map _).map _)
      rw [Option.map_map]
      rfl

end Headers

/-! ### The trusted proxies -/

section Trust

variable {lib : Libraries}

theorem length_bits (a : Address) : a.bits.length = a.width := by
  rw [← ofBytes_ipToBinary, Bits.length_ofBytes, width_eq]

/-- Digits alone are read as an integer. -/
theorem parseInteger_of_digits {l : List Char} {n : ℕ} (h : digits? l = some n) :
    Sessions.RedisKeys.parseInteger l = some ((n : ℤ), []) := by
  have hdigits : l ≠ [] ∧ l.all Char.isDigit := by
    by_contra hnot
    rw [digits?, if_neg hnot] at h
    cases h
  have hall : ∀ c ∈ l, c.isDigit = true := List.all_eq_true.1 hdigits.2
  have hsign : Numerals.sign l = (false, l) := by
    cases l with
    | nil => rfl
    | cons c l =>
        have hc := Numerals.toNat_of_isDigit (hall c List.mem_cons_self)
        have hne : c ≠ '-' ∧ c ≠ '+' := by
          constructor <;>
          · rintro rfl
            revert hc
            decide
        rw [Numerals.sign, if_neg hne.1, if_neg hne.2]
  have hread : digits? (l.takeWhile Char.isDigit) = some n := by
    rw [List.takeWhile_eq_self_iff.2 hall, h]
  have hrest : l.dropWhile Char.isDigit = [] := List.dropWhile_eq_nil_iff.2 hall
  simp only [Sessions.RedisKeys.parseInteger, hsign, hread, hrest, Option.map_some,
    Numerals.signed]
  rfl

/-- **A range of the handlers is an entry of the socket**, whose length is one of the family. -/
theorem entry_of_parsePrefix (h : lib.Documented) {cidr : List Char} {p : Prefix}
    (hp : Handlers.parsePrefix lib cidr = some p) :
    ∃ network n, Entry lib.parseAddress cidr network (n : ℕ) ∧ n ≤ network.width ∧
      p = ⟨network.width, network.bits.take n⟩ := by
  unfold Handlers.parsePrefix at hp
  split at hp
  · cases hp
  · rename_i bitsRev ipRev hcut
    obtain ⟨hrev, hbits⟩ := Numerals.eq_of_cut_eq_some hcut
    split at hp
    · cases hp
    · rename_i ip hip
      split_ifs at hp with hzone hlead
      split at hp
      · cases hp
      · rename_i n hn
        split_ifs at hp with hwidth
        cases hp
        have hof := Addr.eq_ofAddress (not_not.1 hzone)
        rw [hof] at hip
        have hslash : '/' ∉ ipRev.reverse := by
          intro hmem
          have hbyte : (0x2F : UInt8) ∈ encode ipRev.reverse :=
            List.mem_flatMap.2 ⟨'/', hmem, by decide⟩
          rcases h.alphabet _ _ hip _ hbyte with hb | hb | hb | hb | hb
          all_goals revert hb; decide
        refine ⟨ip.address, n, ⟨ipRev.reverse, bitsRev.reverse, ?_, hslash, by simpa using hbits, ?_,
          parseInteger_of_digits hn⟩, Nat.le_of_not_lt hwidth, rfl⟩
        · have hcidr := congrArg List.reverse hrev
          simpa using hcidr
        · exact h.parse_of_parse _ _ hip

/-- **The two services compare an address with a range alike.** -/
theorem cidrMatch?_of_parsePrefix (h : lib.Documented) {cidr : List Char} {p : Prefix}
    (hp : Handlers.parsePrefix lib cidr = some p) (a : Address) :
    cidrMatch? lib.parseAddress (lib.ntoa a) cidr = .ok (decide (p.Contains (.ofAddress a))) := by
  obtain ⟨network, n, hentry, hn, rfl⟩ := entry_of_parsePrefix h hp
  have hlen : (network.bits.take n).length = n := by
    rw [List.length_take, length_bits]
    omega
  rw [cidrMatch?_of_entry (h.parse_ntoa a) hentry]
  by_cases hw : a.width = network.width
  · rw [matchCidr?_of_le hw (hw ▸ hn)]
    congr 1
    rw [decide_eq_decide, Prefix.Contains, hlen]
    simp [Addr.ofAddress, hw]
  · rw [matchCidr?_of_ne hw]
    congr 1
    symm
    rw [decide_eq_false_iff_not]
    rintro ⟨-, heq, -⟩
    exact hw heq

theorem trustedProxyPrefixes_eq (env : Env) :
    Handlers.trustedProxyPrefixes lib env =
      (trustedProxyRanges env).filterMap (Handlers.parsePrefix lib) := by
  have hdefault : ("127.0.0.1/32,::1/128".toList.splitOn ',').map (trimList isSpace) =
      ["127.0.0.1/32".toList, "::1/128".toList] := by decide
  match env with
  | none | some [] =>
      rw [Handlers.trustedProxyPrefixes, trustedProxyRanges, ← hdefault, List.filterMap_map]
      rfl
  | some (c :: cidrs) =>
      rw [Handlers.trustedProxyPrefixes, trustedProxyRanges, List.filterMap_map]
      rfl

/-- A search through answers that are known. -/
theorem anyM_eq_ok {α ε : Type} {f : α → Except ε Bool} {g : α → Bool} {l : List α}
    (h : ∀ a ∈ l, f a = .ok (g a)) : l.anyM f = .ok (l.any g) := by
  induction l with
  | nil => rfl
  | cons a l ih =>
      have hrest := ih fun b hb => h b (List.mem_cons_of_mem a hb)
      rw [List.anyM, h a List.mem_cons_self, List.any_cons]
      cases g a with
      | true => rfl
      | false => exact hrest

variable {env : Env}

/-- **The two services trust the same peers.** -/
theorem trustedProxy?_eq (h : lib.Documented) (hvalid : ValidRanges lib env) (a : Address) :
    trustedProxy? lib env (encode (lib.ntoa a)) = .ok (decide (Trusted lib env a)) := by
  let contained (cidr : List Char) : Bool :=
    (Handlers.parsePrefix lib cidr).any fun p => p.Contains (.ofAddress a)
  have hone : ∀ cidr ∈ trustedProxyRanges env,
      ((toCharlist (encode (lib.ntoa a))).bind fun chars =>
        (cidrMatch? lib.parseAddress chars cidr).mapError Fault.raised) = .ok (contained cidr) := by
    intro cidr hcidr
    obtain ⟨p, hp⟩ := Option.isSome_iff_exists.1 (hvalid cidr hcidr)
    rw [toCharlist_encode]
    show (cidrMatch? lib.parseAddress (lib.ntoa a) cidr).mapError Fault.raised = _
    rw [cidrMatch?_of_parsePrefix h hp]
    simp only [contained, hp, Option.any_some]
    rfl
  have hany := anyM_eq_ok hone
  have hdecide : (trustedProxyRanges env).any contained = decide (Trusted lib env a) := by
    rw [Bool.eq_iff_iff, List.any_eq_true, decide_eq_true_iff, Trusted, trustedProxyPrefixes_eq]
    constructor
    · rintro ⟨cidr, hcidr, hc⟩
      obtain ⟨p, hp, hcontains⟩ := (Option.any_eq_true _ _).1 hc
      exact ⟨p, List.mem_filterMap.2 ⟨cidr, hcidr, hp⟩, of_decide_eq_true hcontains⟩
    · rintro ⟨p, hmem, hcontains⟩
      obtain ⟨cidr, hcidr, hp⟩ := List.mem_filterMap.1 hmem
      exact ⟨cidr, hcidr, by simp [contained, hp, hcontains]⟩
  rw [← hdecide, ← hany]
  rfl

end Trust

/-! ### A pair of libraries -/

section Plain

/-- The four hexadecimal digits of a group. -/
def groupText (group : UInt16) : List Char :=
  [Nat.digitChar (group.toNat / 4096 % 16), Nat.digitChar (group.toNat / 256 % 16),
    Nat.digitChar (group.toNat / 16 % 16), Nat.digitChar (group.toNat % 16)]

/-- Four bytes in decimal with dots between them, or eight groups of four hexadecimal digits with colons
between them. -/
def printAddress : Address → List Char
  | .v4 a b c d => ['.'].intercalate ([a, b, c, d].map fun byte => (toString byte.toNat).toList)
  | .v6 a b c d e f g h => [':'].intercalate ([a, b, c, d, e, f, g, h].map groupText)

def group? : List Char → Option UInt16
  | [p, q, r, s] => (JsonText.hex4 p q r s).map UInt16.ofNat
  | _ => none

def groups? (text : List Char) : Option Address :=
  match (text.splitOn ':').map group? with
  | [some a, some b, some c, some d, some e, some f, some g, some h] => some (.v6 a b c d e f g h)
  | _ => none

/-- The address that is printed so. -/
def readAddress (text : List Char) : Option Address :=
  ((groups? text).or (dottedQuad text)).filter fun a => printAddress a = text

theorem group?_groupText (group : UInt16) : group? (groupText group) = some group := by
  rw [groupText, group?, JsonText.hex4_digitChar group.toNat_lt, Option.map_some, UInt16.ofNat_toNat]

/-- The characters of an address. -/
def IsAddressChar (c : Char) : Prop := c.isDigit = true ∨ c ∈ "abcdef.:".toList

theorem isAddressChar_digitChar {n : ℕ} (h : n < 16) :
    IsAddressChar (Nat.digitChar n) ∧ Nat.digitChar n ≠ ':' := by
  revert n
  unfold IsAddressChar
  decide

theorem isAddressChar_of_mem_groupText {group : UInt16} {c : Char} (h : c ∈ groupText group) :
    IsAddressChar c ∧ c ≠ ':' := by
  simp only [groupText, List.mem_cons, List.not_mem_nil, or_false] at h
  rcases h with rfl | rfl | rfl | rfl
  all_goals exact isAddressChar_digitChar (Nat.mod_lt _ (by omega))

theorem mem_intercalate {α : Type*} {x c : α} {ls : List (List α)} (h : c ∈ [x].intercalate ls) :
    c = x ∨ ∃ l ∈ ls, c ∈ l := by
  induction ls with
  | nil => cases h
  | cons l ls ih =>
      cases ls with
      | nil =>
          rw [List.intercalate_singleton] at h
          exact .inr ⟨l, List.mem_cons_self, h⟩
      | cons l' ls =>
          rw [List.intercalate_cons_cons, List.mem_append, List.mem_append, List.mem_singleton] at h
          rcases h with (h | h) | h
          · exact .inr ⟨l, List.mem_cons_self, h⟩
          · exact .inl h
          · rcases ih h with heq | ⟨m, hm, hc⟩
            · exact .inl heq
            · exact .inr ⟨m, List.mem_cons_of_mem l hm, hc⟩

theorem isAddressChar_of_mem {a : Address} {c : Char} (h : c ∈ printAddress a) : IsAddressChar c := by
  cases a with
  | v4 p q r s =>
      rcases mem_intercalate h with rfl | ⟨l, hl, hc⟩
      · exact .inr (by decide)
      · obtain ⟨byte, -, rfl⟩ := List.mem_map.1 hl
        exact .inl (Numerals.isDigit_of_mem_toString hc)
  | v6 p q r s t u v w =>
      rcases mem_intercalate h with rfl | ⟨l, hl, hc⟩
      · exact .inr (by decide)
      · obtain ⟨group, -, rfl⟩ := List.mem_map.1 hl
        exact (isAddressChar_of_mem_groupText hc).1

/-- **An address is read as it was printed.** -/
theorem readAddress_printAddress (a : Address) : readAddress (printAddress a) = some a := by
  have hcandidate : (groups? (printAddress a)).or (dottedQuad (printAddress a)) = some a := by
    cases a with
    | v4 p q r s =>
        have hdot : ∀ l ∈ [p, q, r, s].map fun byte => (toString byte.toNat).toList, '.' ∉ l := by
          intro l hl hmem
          obtain ⟨byte, -, rfl⟩ := List.mem_map.1 hl
          cases Numerals.isDigit_of_mem_toString hmem
        have hcolon : ':' ∉ printAddress (.v4 p q r s) := by
          intro hmem
          rcases mem_intercalate hmem with heq | ⟨l, hl, hc⟩
          · cases heq
          · obtain ⟨byte, -, rfl⟩ := List.mem_map.1 hl
            cases Numerals.isDigit_of_mem_toString hc
        have hgroups : groups? (printAddress (.v4 p q r s)) = none := by
          rw [groups?, List.splitOn_eq_singleton hcolon, List.map_singleton]
          cases group? (printAddress (.v4 p q r s)) <;> rfl
        have hquad : dottedQuad (printAddress (.v4 p q r s)) = some (.v4 p q r s) := by
          rw [dottedQuad, printAddress, List.splitOn_intercalate _ hdot (by simp)]
          simp only [List.map_cons, List.map_nil, Numerals.digits?_toString]
          rw [if_pos ⟨p.toNat_lt, q.toNat_lt, r.toNat_lt, s.toNat_lt⟩]
          simp only [UInt8.ofNat_toNat]
        rw [hgroups, hquad]
        rfl
    | v6 p q r s t u v w =>
        have hcolon : ∀ l ∈ [p, q, r, s, t, u, v, w].map groupText, ':' ∉ l := by
          intro l hl hmem
          obtain ⟨group, -, rfl⟩ := List.mem_map.1 hl
          exact (isAddressChar_of_mem_groupText hmem).2 rfl
        rw [groups?, printAddress, List.splitOn_intercalate _ hcolon (by simp)]
        simp only [List.map_cons, List.map_nil, group?_groupText]
        rfl
  rw [readAddress, hcandidate]
  simp

/-- An address, and perhaps a zone after a percent sign. -/
def readAddr (text : Text) : Option Addr :=
  let parts := (cut 0x25 text).getD (text, [])
  ((toCharlist parts.1).toOption.bind readAddress).bind fun a =>
    if hzone : a.width = 32 → parts.2 = [] then some ⟨a, parts.2, hzone⟩ else none

def printAddr (x : Addr) : Text :=
  encode (printAddress x.address) ++ if x.zone = [] then [] else 0x25 :: x.zone

/-- A pair of libraries that print addresses of IPv6 in full. -/
def plain : Libraries where
  parseAddress := readAddress
  ntoa := printAddress
  parseAddr text := (readAddr text).filter fun x => printAddr x = text
  string := printAddr

theorem isAddressByte_of_mem {a : Address} {byte : UInt8} (h : byte ∈ encode (printAddress a)) :
    IsAddressByte byte := by
  obtain ⟨c, hc, hbyte⟩ := List.mem_flatMap.1 h
  rcases isAddressChar_of_mem hc with hdigit | hletter
  · have hrange := Numerals.toNat_of_isDigit hdigit
    rw [← Utf8.toNat_of_mem_utf8EncodeChar (by omega) hbyte] at hrange
    exact .inl hrange
  · have hall : ("abcdef.:".toList.all fun c =>
        (String.utf8EncodeChar c).all fun byte => decide (IsAddressByte byte)) = true := by decide
    exact of_decide_eq_true (List.all_eq_true.1 (List.all_eq_true.1 hall c hletter) byte hbyte)

theorem readAddr_printAddr (x : Addr) : readAddr (printAddr x) = some x := by
  have hpercent : (0x25 : UInt8) ∉ encode (printAddress x.address) := fun hmem =>
    absurd (isAddressByte_of_mem hmem) (by decide)
  have hparts : (cut 0x25 (printAddr x)).getD (printAddr x, []) =
      (encode (printAddress x.address), x.zone) := by
    by_cases hzone : x.zone = []
    · have hprint : printAddr x = encode (printAddress x.address) := by simp [printAddr, hzone]
      rw [hprint, Numerals.cut_eq_none hpercent, hzone, Option.getD_none]
    · rw [printAddr, if_neg hzone, Numerals.cut_append hpercent, Option.getD_some]
  rw [readAddr, hparts]
  simp only [toCharlist_encode, Except.toOption, Option.bind_some, readAddress_printAddress]
  exact dif_pos x.zone_eq_nil

theorem printAddr_ofAddress (a : Address) : printAddr (.ofAddress a) = encode (printAddress a) :=
  List.append_nil _

/-- A text that is read is the text that is printed. -/
theorem plain_parseAddr_eq_some_iff {text : Text} {x : Addr} :
    plain.parseAddr text = some x ↔ text = printAddr x := by
  constructor
  · intro h
    exact (of_decide_eq_true (Option.filter_eq_some_iff.1 h).2).symm
  · rintro rfl
    simp [plain, readAddr_printAddr]

theorem plain_printedAlike (a : Address) : PrintedAlike plain a := (printAddr_ofAddress a).symm

/-- **The two libraries do what is documented.** -/
theorem plain_documented : plain.Documented where
  parse_ntoa := readAddress_printAddress
  parse_string x := plain_parseAddr_eq_some_iff.2 rfl
  parse_nil := by decide
  parse_of_parse text a h := by
    have htext := plain_parseAddr_eq_some_iff.1 h
    have hread := congrArg toCharlist htext
    rw [printAddr_ofAddress, toCharlist_encode, toCharlist_encode] at hread
    cases hread
    exact readAddress_printAddress a
  alphabet text a h := by
    have htext := plain_parseAddr_eq_some_iff.1 h
    rw [printAddr_ofAddress] at htext
    intro byte hbyte
    exact isAddressByte_of_mem (htext ▸ hbyte)
  percent x h := by simp [plain, printAddr, h]
  no_percent a h := absurd (isAddressByte_of_mem h) (by decide)

end Plain

/-! ### The two addresses -/

section Addresses

variable {lib : Libraries} {env : Env} {request : Request}

/-- What a search finds has the property of all that it may find. -/
theorem of_findSomeM?_eq_some {α ε β : Type} {f : α → Except ε (Option β)} {P : β → Prop}
    (h : ∀ a b, f a = .ok (some b) → P b) {l : List α} {b : β} (hl : l.findSomeM? f = .ok (some b)) :
    P b := by
  induction l with
  | nil => cases hl
  | cons a l ih =>
      rcases ha : f a with e | _ | c
      · rw [findSomeM?_cons_error ha] at hl
        cases hl
      · rw [findSomeM?_cons_none ha] at hl
        exact ih hl
      · rw [findSomeM?_cons_some ha] at hl
        cases hl
        exact h a _ ha

/-- What is read is not mapped. -/
theorem unmap_of_socketReads {headers : List Header} {a : Address}
    (h : socketReads lib headers = .ok (some a)) : a.unmap = a := by
  refine of_findSomeM?_eq_some (P := fun a => a.unmap = a) ?_ h
  intro text b hb
  cases hchars : toCharlist text with
  | error e =>
      rw [hchars] at hb
      cases hb
  | ok chars =>
      rw [hchars] at hb
      obtain ⟨b', -, rfl⟩ := Option.map_eq_some_iff.1 (Except.ok.inj hb)
      exact Address.unmap_unmap b'

theorem unmap_getD_of_socketReads {headers : List Header} {reads : Option Address}
    (h : socketReads lib headers = .ok reads) {peer : Address} (hpeer : peer.unmap = peer) :
    (reads.getD peer).unmap = reads.getD peer := by
  cases reads with
  | none => exact hpeer
  | some a => exact unmap_of_socketReads h

theorem unmap_getD_handlersRead (headers : List Header) {peer : Address} (hpeer : peer.unmap = peer) :
    ((handlersRead lib headers).getD (.ofAddress peer)).unmap =
      (handlersRead lib headers).getD (.ofAddress peer) := by
  cases hread : handlersRead lib headers with
  | none =>
      rw [Option.getD_none, Addr.unmap_ofAddress, hpeer]
  | some x =>
      obtain ⟨text, -, htext⟩ := List.exists_of_findSome?_eq_some hread
      obtain ⟨y, -, rfl⟩ := Option.map_eq_some_iff.1 htext
      exact Addr.unmap_unmap y

/-- **What the socket assigns**: the address that it reads, if the peer is trusted, or the peer's. -/
theorem extractIp_eq (h : lib.Documented) (hvalid : ValidRanges lib env) :
    extractIp lib env request.connectInfo =
      (socketReads lib request.headers).map fun reads =>
        encode (lib.ntoa (if Trusted lib env request.peer.unmap then reads.getD request.peer.unmap
          else request.peer.unmap)) := by
  rw [extractIp, peerIp_eq h, forwardedIp_eq_map]
  rcases socketReads lib request.headers with e | _ | a
  · rfl
  · show Except.ok (encode (lib.ntoa request.peer.unmap)) = Except.ok (encode (lib.ntoa (ite _ _ _)))
    rw [Option.getD_none, ite_self]
  · show (trustedProxy? lib env (encode (lib.ntoa request.peer.unmap))).bind _ = _
    rw [trustedProxy?_eq h hvalid]
    by_cases htrusted : Trusted lib env request.peer.unmap <;>
      simp [htrusted, Except.bind, Except.map, pure, Except.pure]

namespace Handlers

/-- A text is normalised to the address that is read in it. -/
theorem normalizeIP_eq (h : lib.Documented) (text : Text) :
    normalizeIP lib text =
      (((lib.parseAddr (trimSpace text)).map Addr.unmap).map lib.string).getD [] := by
  by_cases hnil : text = []
  · subst hnil
    have hparse : lib.parseAddr (trimSpace []) = none := h.parse_nil
    rw [hparse]
    rfl
  · rw [normalizeIP, if_neg hnil]
    cases lib.parseAddr (trimSpace text) <;> rfl

theorem normalizeIP_string (h : lib.Documented) (a : Address) :
    normalizeIP lib (lib.string (.ofAddress a.unmap)) = lib.string (.ofAddress a.unmap) := by
  have hparse := h.parse_string (.ofAddress a)
  rw [Addr.unmap_ofAddress] at hparse
  rw [normalizeIP_eq h, trimSpace_string h, hparse]
  simp

/-- **The peer's address is read back from the text that the server writes.** -/
theorem parseRemoteIP_eq (h : lib.Documented) :
    parseRemoteIP lib (remoteAddr lib request) = lib.string (.ofAddress request.peer.unmap) := by
  have hnormal := normalizeIP_string h request.peer
  have hne : lib.string (.ofAddress request.peer.unmap) ≠ [] := by
    have hstring := string_ne_nil h (.ofAddress request.peer)
    rwa [Addr.unmap_ofAddress] at hstring
  simp only [parseRemoteIP, trimSpace_remoteAddr h, splitHostPort_remoteAddr h, hnormal, if_pos hne]

/-- The peer is trusted if its address lies in a range. -/
theorem isTrustedProxyIP_string (h : lib.Documented) (a : Address) :
    isTrustedProxyIP lib env (lib.string (.ofAddress a.unmap)) = decide (Trusted lib env a.unmap) := by
  have hparse := h.parse_string (.ofAddress a)
  rw [Addr.unmap_ofAddress] at hparse
  rw [isTrustedProxyIP, trimSpace_string h, hparse, Bool.eq_iff_iff, List.any_eq_true,
    decide_eq_true_iff, Trusted]
  simp

/-- **What the handlers use**: the address that they read, if the peer is trusted, or the peer's. -/
theorem getRequestClientIP_eq (h : lib.Documented) :
    getRequestClientIP lib env request =
      lib.string (if Trusted lib env request.peer.unmap then
        (handlersRead lib request.headers).getD (.ofAddress request.peer.unmap)
        else .ofAddress request.peer.unmap) := by
  rw [getRequestClientIP, parseRemoteIP_eq h, isTrustedProxyIP_string h]
  by_cases htrusted : Trusted lib env request.peer.unmap
  · have hsearch : (fun candidate => if normalizeIP lib candidate ≠ [] then
          some (normalizeIP lib candidate) else none) =
        fun candidate => ((lib.parseAddr (trimSpace candidate)).map Addr.unmap).map lib.string := by
      funext candidate
      rw [normalizeIP_eq h]
      cases lib.parseAddr (trimSpace candidate) with
      | none => rfl
      | some x => exact if_pos (string_ne_nil h x)
    simp only [decide_eq_true htrusted, if_true, if_pos htrusted]
    have hmap : ((candidates request.headers).findSome? fun candidate =>
          ((lib.parseAddr (trimSpace candidate)).map Addr.unmap).map lib.string) =
        (handlersRead lib request.headers).map lib.string := List.map_findSome?.symm
    rw [hsearch, hmap]
    cases handlersRead lib request.headers <;> rfl
  · simp only [decide_eq_false htrusted, if_neg htrusted, Bool.false_eq_true, if_false]

end Handlers

/-- **The two services use one text for a client exactly when the texts that they look at lead to one
address, which both print alike.** -/
theorem addressLaw_iff (h : lib.Documented) (hvalid : ValidRanges lib env) :
    AddressLaw lib env request ↔ SameReading lib env request := by
  have hpeer := Address.unmap_unmap request.peer
  rw [AddressLaw, SameReading, extractIp_eq h hvalid, Handlers.getRequestClientIP_eq h]
  cases hreads : socketReads lib request.headers with
  | error e => simp [Except.map]
  | ok reads =>
      show (∃ ip, Except.ok (encode (lib.ntoa (ite _ _ _))) = Except.ok ip ∧ _ ∧ _) ↔ _
      by_cases htrusted : Trusted lib env request.peer.unmap
      · have hread := unmap_getD_of_socketReads hreads hpeer
        have hiff := encode_ntoa_eq_string_iff h hread
          (@unmap_getD_handlersRead lib request.headers _ hpeer)
        have hnormal := Handlers.normalizeIP_string h (reads.getD request.peer.unmap)
        simp only [if_pos htrusted, Except.ok.injEq, exists_eq_left']
        rw [hread] at hnormal
        constructor
        · rintro ⟨heq, -⟩
          exact hiff.1 heq.symm
        · intro hsame
          have heq := hiff.2 hsame
          refine ⟨heq.symm, ?_⟩
          rw [heq, hsame.1]
          exact hnormal
      · have hiff := encode_ntoa_eq_string_iff h hpeer (x := .ofAddress request.peer.unmap) (by simp)
        have hnormal := Handlers.normalizeIP_string h request.peer
        simp only [if_neg htrusted, Except.ok.injEq, exists_eq_left']
        constructor
        · rintro ⟨heq, -⟩
          exact heq.symm
        · intro hsame
          refine ⟨hsame.symm, ?_⟩
          rw [show encode (lib.ntoa request.peer.unmap) = _ from hsame]
          exact hnormal

end Addresses

/-- The list of trusted proxies of the two examples. -/
def proxies : Env := some "10.0.0.0/8".toList

theorem plain_validRanges : ValidRanges plain proxies := by
  unfold ValidRanges
  decide

/-- A request that came through a trusted proxy. -/
def proxied (headers : List Header) : Request where
  peer := .v4 10 0 0 2
  port := 41830
  headers := headers

/-- A proxy that writes `X-Real-IP` alone is read alike. -/
theorem addressLaw_realIp :
    AddressLaw plain proxies (proxied [⟨"X-Real-IP".toList, encode "198.51.100.7".toList⟩]) := by
  refine (addressLaw_iff plain_documented plain_validRanges).2 ⟨some (.v4 198 51 100 7), rfl, ?_⟩
  rw [if_pos (by decide)]
  exact ⟨by decide, plain_printedAlike _⟩

/-- **The law fails**: behind a content delivery network the handlers use the address of the client,
and the socket assigns that of the network's own server. -/
theorem addressLaw_fails :
    plain.Documented ∧ ValidRanges plain proxies ∧
      ¬ AddressLaw plain proxies (proxied
        [⟨"CF-Connecting-IP".toList, encode "198.51.100.7".toList⟩,
          ⟨"X-Real-IP".toList, encode "172.68.0.1".toList⟩]) := by
  refine ⟨plain_documented, plain_validRanges, ?_⟩
  rintro ⟨ip, hsocket, hhandlers, -⟩
  have hassigned : ip = encode "172.68.0.1".toList := by
    rw [extractIp_eq plain_documented plain_validRanges] at hsocket
    exact (Except.ok.inj hsocket).symm
  have hused : ip = encode "198.51.100.7".toList := by
    rw [← hhandlers, Handlers.getRequestClientIP_eq plain_documented]
    rfl
  rw [hassigned] at hused
  revert hused
  decide

end ClientIP

end Sockets
