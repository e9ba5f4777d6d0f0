import Mathlib.Data.List.TakeDrop
import LeoOne.Agent.Urls

/-!
# Exact readings of a URL

A parser reads a URL exactly if it hands over the parts of the URL and nothing else: the
port as a number of digits only, no part shortened, and a default only for a part that is
missing.  The three parsers of the agent do so under different conditions.
-/

namespace LeoOne
namespace Agent

open Foundation
open Wire

/-!
## What an exact reading is
-/

/-- The port is the default, or a number of digits in the range of ports. -/
def ExactPort (a : UrlParts) (default port : Int) : Prop :=
  match a.port with
  | none => port = default
  | some t => t.all isDigit = true ∧ port = decimalValue t ∧ 1 ≤ port ∧ port ≤ 65535

/-- The reading of a WebSocket URL is that of its parts. -/
structure ExactWsUrl (a : UrlParts) (defaultPath : List UInt8) (r : WsUrl) : Prop where
  host : r.host = a.host
  port : ExactPort a 443 r.port
  path : r.path = a.path.getD defaultPath

/-- The reading of a URL of a download or an enrolment; a buffer of size 0 asks for no path. -/
structure ExactHttpUrl (url : List UInt8) (pathSize : Nat) (r : HttpUrl) : Prop where
  scheme : r.useSsl = (utf8 "https://").isPrefixOf url
  host : r.host = (httpParts url).host
  port : ExactPort (httpParts url) (if (utf8 "https://").isPrefixOf url then 443 else 80) r.port
  path : 0 < pathSize -> r.path = (httpParts url).path.getD (utf8 "/")

/-- A host, a port and a path that can be written as a URL. -/
structure UrlText where
  host : List UInt8
  port : Nat
  path : List UInt8
  host_ne : host ≠ []
  host_colon : 58 ∉ host
  host_slash : 47 ∉ host
  port_pos : 1 ≤ port
  port_le : port ≤ 65535
  path_slash : path.head? = some 47

namespace UrlText

def parts (u : UrlText) : UrlParts where
  host := u.host
  port := some (decimal u.port)
  path := some u.path
  host_colon := u.host_colon
  host_slash := u.host_slash
  port_slash := by
    rintro _ ⟨⟩ hmem
    cases isDigit_of_mem_decimal hmem
  path_slash := by
    rintro _ ⟨⟩
    exact u.path_slash

/-- The URL with a scheme. -/
def render (u : UrlText) (scheme : String) : List UInt8 :=
  utf8 scheme ++ (u.host ++ (58 :: decimal u.port) ++ u.path)

def wsUrl (u : UrlText) : WsUrl where
  host := u.host
  port := u.port
  path := u.path

end UrlText

/-- What is promised for a URL: each parser that accepts it reads it exactly, what fits is
read back from the URL that it is written as, and the two parsers for WebSocket URLs agree
if there is a path. -/
structure ExactUrl (hostSize pathSize : Nat) (url : List UInt8) : Prop where
  endpoint : forall r, parseEndpoint url = some r -> ExactWsUrl (wsParts url) (utf8 "/ws/agent") r
  ws : forall r, parseWsUrl url = some r -> ExactWsUrl (wsParts url) (utf8 "/") r
  http : forall r, leoHttpParseUrl url hostSize pathSize = some r -> ExactHttpUrl url pathSize r
  endpointBack : forall (u : UrlText) (scheme : String), scheme ∈ ["wss://", "ws://"] ->
    url = u.render scheme -> u.host.length < connHostLen -> u.path.length < connPathLen ->
      parseEndpoint url = some u.wsUrl
  wsBack : forall (u : UrlText) (scheme : String), scheme ∈ ["wss://", "ws://"] ->
    url = u.render scheme -> u.host.length < rdHostLen -> u.path.length < rdWsUrlMaxLen ->
      parseWsUrl url = some u.wsUrl
  httpBack : forall (u : UrlText) (ssl : Bool),
    url = u.render (if ssl then "https://" else "http://") ->
      u.host.length < hostSize -> u.path.length < pathSize ->
        leoHttpParseUrl url hostSize pathSize =
          some { useSsl := ssl, host := u.host, port := u.port, path := u.path }
  agree : (wsParts url).path ≠ none -> parseEndpoint url = parseWsUrl url

/-!
## When a reading is exact
-/

/-- The text of the port, if there is one, is a number in the range of ports. -/
def PortNumber (a : UrlParts) : Prop :=
  forall t, t ∈ a.port -> t.all isDigit = true ∧ decimalValue t ≤ 65535

/-- `_parse_endpoint` refuses the URL, or its port is a number and its parts fit. -/
def EndpointFits (a : UrlParts) : Prop :=
  refusesEndpoint a = true ∨
    PortNumber a ∧ a.host.length < connHostLen ∧
      (a.path.getD (utf8 "/ws/agent")).length < connPathLen

/-- The same for `_parse_ws_url`. -/
def WsUrlFits (a : UrlParts) : Prop :=
  refusesUrl rdHostLen a = true ∨
    PortNumber a ∧ (a.path.getD (utf8 "/")).length < rdWsUrlMaxLen

/-- The same for `leo_http_parse_url`. -/
def HttpUrlFits (hostSize pathSize : Nat) (a : UrlParts) : Prop :=
  refusesUrl hostSize a = true ∨
    PortNumber a ∧ (0 < pathSize -> (a.path.getD (utf8 "/")).length < pathSize)

theorem strncpy_eq_iff {s : List UInt8} {size : Nat} (h : 0 < size) :
    strncpy s size = s <-> s.length < size := by
  rw [strncpy, List.take_eq_self_iff]
  exact Nat.le_sub_one_iff_lt h

theorem strncpy_of_lt {s : List UInt8} {size : Nat} (h : s.length < size) :
    strncpy s size = s :=
  (strncpy_eq_iff (Nat.lt_of_le_of_lt (Nat.zero_le _) h)).mpr h

/-- Of a port that is not refused the reading is exact just if it is a number. -/
theorem exactPort_iff {a : UrlParts} {default : Int}
    (hpositive : forall t, a.port = some t -> 0 < atoi t) :
    ExactPort a default (portRead default a) <-> PortNumber a := by
  rw [ExactPort, portRead, PortNumber]
  cases hport : a.port with
  | none =>
      exact ⟨fun _ _ ht => (by cases ht), fun _ => rfl⟩
  | some t =>
      have hpos := hpositive t hport
      constructor
      · rintro ⟨hdigits, hvalue, _, hle⟩ _ ⟨⟩
        refine ⟨hdigits, ?_⟩
        rw [hvalue] at hle
        omega
      · intro hnumber
        rcases hnumber t rfl with ⟨hdigits, hle⟩
        have hvalue : atoi t = decimalValue t := atoi_digits hdigits (by omega)
        refine ⟨hdigits, hvalue, hpos, ?_⟩
        show atoi t ≤ 65535
        rw [hvalue]
        omega

theorem refusesUrl_iff {hostSize : Nat} {a : UrlParts} :
    refusesUrl hostSize a = false <->
      a.host ≠ [] ∧ a.host.length < hostSize ∧
        forall t, a.port = some t -> 0 < atoi t ∧ atoi t ≤ 65535 := by
  rw [refusesUrl]
  cases a.port <;> grind

theorem refusesEndpoint_iff {a : UrlParts} :
    refusesEndpoint a = false <->
      a.host ≠ [] ∧ (a.port ≠ none ∨ a.path ≠ none -> a.host.length < connHostLen) ∧
        forall t, a.port = some t -> 0 < atoi t := by
  rw [refusesEndpoint]
  cases a.port <;> cases a.path <;> grind

theorem endpoint_exact_iff (url : List UInt8) :
    (forall r, parseEndpoint url = some r -> ExactWsUrl (wsParts url) (utf8 "/ws/agent") r) <->
      EndpointFits (wsParts url) := by
  rw [parseEndpoint_eq, EndpointFits]
  cases hrefuse : refusesEndpoint (wsParts url) with
  | true =>
      exact ⟨fun _ => Or.inl rfl, fun _ _ hr => by cases hr⟩
  | false =>
      rcases refusesEndpoint_iff.mp hrefuse with ⟨_, _, hpositive⟩
      rw [if_neg Bool.false_ne_true, or_iff_right Bool.false_ne_true]
      constructor
      · intro hall
        rcases hall _ rfl with ⟨hhost, hport, hpath⟩
        exact ⟨(exactPort_iff hpositive).mp hport, (strncpy_eq_iff (by decide)).mp hhost,
          (strncpy_eq_iff (by decide)).mp hpath⟩
      · rintro ⟨hport, hhost, hpath⟩ _ ⟨⟩
        exact ⟨strncpy_of_lt hhost, (exactPort_iff hpositive).mpr hport, strncpy_of_lt hpath⟩

theorem ws_exact_iff (url : List UInt8) :
    (forall r, parseWsUrl url = some r -> ExactWsUrl (wsParts url) (utf8 "/") r) <->
      WsUrlFits (wsParts url) := by
  rw [parseWsUrl_eq, WsUrlFits]
  cases hrefuse : refusesUrl rdHostLen (wsParts url) with
  | true =>
      exact ⟨fun _ => Or.inl rfl, fun _ _ hr => by cases hr⟩
  | false =>
      rcases refusesUrl_iff.mp hrefuse with ⟨_, _, hrange⟩
      have hpositive := fun t ht => (hrange t ht).left
      rw [if_neg Bool.false_ne_true, or_iff_right Bool.false_ne_true]
      constructor
      · intro hall
        rcases hall _ rfl with ⟨_, hport, hpath⟩
        exact ⟨(exactPort_iff hpositive).mp hport, (strncpy_eq_iff (by decide)).mp hpath⟩
      · rintro ⟨hport, hpath⟩ _ ⟨⟩
        exact ⟨rfl, (exactPort_iff hpositive).mpr hport, strncpy_of_lt hpath⟩

theorem httpScheme_fst (url : List UInt8) :
    (httpScheme url).1 = (utf8 "https://").isPrefixOf url := by
  rw [httpScheme]
  split
  · rename_i h
    exact h.symm
  · rename_i h
    rw [Bool.eq_false_of_not_eq_true h]
    split <;> rfl

theorem http_exact_iff (hostSize pathSize : Nat) (url : List UInt8) :
    (forall r, leoHttpParseUrl url hostSize pathSize = some r -> ExactHttpUrl url pathSize r) <->
      HttpUrlFits hostSize pathSize (httpParts url) := by
  rw [leoHttpParseUrl_eq, HttpUrlFits, httpScheme_fst]
  cases hrefuse : refusesUrl hostSize (httpParts url) with
  | true =>
      exact ⟨fun _ => Or.inl rfl, fun _ _ hr => by cases hr⟩
  | false =>
      rcases refusesUrl_iff.mp hrefuse with ⟨_, _, hrange⟩
      have hpositive := fun t ht => (hrange t ht).left
      rw [if_neg Bool.false_ne_true, or_iff_right Bool.false_ne_true]
      constructor
      · intro hall
        rcases hall _ rfl with ⟨_, _, hport, hpath⟩
        exact ⟨(exactPort_iff hpositive).mp hport,
          fun hsize => (strncpy_eq_iff hsize).mp (hpath hsize)⟩
      · rintro ⟨hport, hpath⟩ _ ⟨⟩
        exact ⟨rfl, rfl, (exactPort_iff hpositive).mpr hport,
          fun hsize => strncpy_of_lt (hpath hsize)⟩

/-!
## Rendered URLs
-/

theorem stripScheme_render {scheme : String} (h : scheme ∈ ["wss://", "ws://"])
    (s : List UInt8) : stripScheme (utf8 scheme ++ s) = s := by
  rcases List.mem_cons.mp h with rfl | h
  · have hscheme : utf8 "wss://" = [119, 115, 115, 58, 47, 47] := by decide
    rw [stripScheme, hscheme]
    rfl
  · cases List.mem_singleton.mp h
    have hwss : utf8 "wss://" = [119, 115, 115, 58, 47, 47] := by decide
    have hws : utf8 "ws://" = [119, 115, 58, 47, 47] := by decide
    rw [stripScheme, hwss, hws]
    rfl

theorem httpScheme_render (ssl : Bool) (s : List UInt8) :
    httpScheme (utf8 (if ssl then "https://" else "http://") ++ s) = (ssl, s) := by
  have hhttps : utf8 "https://" = [104, 116, 116, 112, 115, 58, 47, 47] := by decide
  have hhttp : utf8 "http://" = [104, 116, 116, 112, 58, 47, 47] := by decide
  rw [httpScheme, hhttps, hhttp]
  cases ssl with
  | true =>
      show (if _ then _ else _) = _
      rw [if_pos rfl, hhttps]
      rfl
  | false =>
      rw [if_neg Bool.false_ne_true, hhttp]
      rfl

theorem UrlText.wsParts_render (u : UrlText) {scheme : String}
    (h : scheme ∈ ["wss://", "ws://"]) : wsParts (u.render scheme) = u.parts := by
  rw [wsParts, UrlText.render, stripScheme_render h]
  exact Address.ofText_text (by decide) u.parts

theorem UrlText.httpParts_render (u : UrlText) (ssl : Bool) :
    httpParts (u.render (if ssl then "https://" else "http://")) = u.parts := by
  rw [httpParts, UrlText.render, httpScheme_render]
  exact Address.ofText_text (by decide) u.parts

theorem UrlText.atoi_port (u : UrlText) : atoi (decimal u.port) = u.port := by
  have hle := u.port_le
  rw [atoi_digits (all_decimal u.port) (by rw [decimalValue_decimal]; omega),
    decimalValue_decimal]

theorem UrlText.accepted (u : UrlText) {hostSize : Nat} (h : u.host.length < hostSize) :
    refusesUrl hostSize u.parts = false := by
  refine refusesUrl_iff.mpr ⟨u.host_ne, h, ?_⟩
  rintro _ ⟨⟩
  have hpos := u.port_pos
  have hle := u.port_le
  rw [u.atoi_port]
  omega

theorem UrlText.endpoint_back (u : UrlText) {scheme : String}
    (h : scheme ∈ ["wss://", "ws://"]) (hhost : u.host.length < connHostLen)
    (hpath : u.path.length < connPathLen) : parseEndpoint (u.render scheme) = some u.wsUrl := by
  have haccepted : refusesEndpoint u.parts = false := by
    rcases refusesUrl_iff.mp (u.accepted hhost) with ⟨hne, hlt, hrange⟩
    exact refusesEndpoint_iff.mpr ⟨hne, fun _ => hlt, fun t ht => (hrange t ht).left⟩
  rw [parseEndpoint_eq, u.wsParts_render h, haccepted, if_neg Bool.false_ne_true]
  have hhostBack : strncpy u.parts.host connHostLen = u.host := strncpy_of_lt hhost
  have hpathBack : strncpy (u.parts.path.getD (utf8 "/ws/agent")) connPathLen = u.path :=
    strncpy_of_lt hpath
  have hportBack : portRead 443 u.parts = u.port := u.atoi_port
  rw [hhostBack, hpathBack, hportBack]
  rfl

theorem UrlText.ws_back (u : UrlText) {scheme : String}
    (h : scheme ∈ ["wss://", "ws://"]) (hhost : u.host.length < rdHostLen)
    (hpath : u.path.length < rdWsUrlMaxLen) : parseWsUrl (u.render scheme) = some u.wsUrl := by
  rw [parseWsUrl_eq, u.wsParts_render h, u.accepted hhost, if_neg Bool.false_ne_true]
  have hpathBack : strncpy (u.parts.path.getD (utf8 "/")) rdWsUrlMaxLen = u.path :=
    strncpy_of_lt hpath
  have hportBack : portRead 443 u.parts = u.port := u.atoi_port
  rw [hpathBack, hportBack]
  rfl

theorem UrlText.http_back (u : UrlText) (ssl : Bool) {hostSize pathSize : Nat}
    (hhost : u.host.length < hostSize) (hpath : u.path.length < pathSize) :
    leoHttpParseUrl (u.render (if ssl then "https://" else "http://")) hostSize pathSize =
      some { useSsl := ssl, host := u.host, port := u.port, path := u.path } := by
  have hscheme : (httpScheme (u.render (if ssl then "https://" else "http://"))).1 = ssl := by
    rw [UrlText.render, httpScheme_render]
  rw [leoHttpParseUrl_eq, u.httpParts_render, u.accepted hhost, if_neg Bool.false_ne_true,
    hscheme]
  have hpathBack : strncpy (u.parts.path.getD (utf8 "/")) pathSize = u.path :=
    strncpy_of_lt hpath
  have hportBack : portRead (if ssl then 443 else 80) u.parts = u.port := u.atoi_port
  rw [hpathBack, hportBack]
  rfl

/-!
## The two parsers of WebSocket URLs
-/

/-- Where `_parse_endpoint` is exact the other parser agrees with it, if there is a path. -/
theorem parsers_agree {url : List UInt8} (hpath : (wsParts url).path ≠ none)
    (h : EndpointFits (wsParts url)) : parseEndpoint url = parseWsUrl url := by
  rw [parseEndpoint_eq, parseWsUrl_eq]
  generalize wsParts url = a at hpath h
  cases hr : a.path with
  | none =>
      exact absurd hr hpath
  | some r =>
      cases hrefuse : refusesEndpoint a with
      | true =>
          -- what the endpoint refuses, the other one refuses as well
          have hboth : refusesUrl rdHostLen a = true := by
            by_contra hnot
            rcases refusesUrl_iff.mp (Bool.eq_false_of_not_eq_true hnot) with
              ⟨hne, hlt, hrange⟩
            have hfalse := refusesEndpoint_iff.mpr
              ⟨hne, fun _ => hlt, fun t ht => (hrange t ht).left⟩
            rw [hfalse] at hrefuse
            cases hrefuse
          rw [hboth]
          rfl
      | false =>
          rcases refusesEndpoint_iff.mp hrefuse with ⟨hne, _, hpositive⟩
          rw [EndpointFits, hrefuse, or_iff_right Bool.false_ne_true, hr] at h
          rcases h with ⟨hnumber, hhost, hfits⟩
          have haccepted : refusesUrl rdHostLen a = false := by
            refine refusesUrl_iff.mpr ⟨hne, hhost, ?_⟩
            intro t ht
            rcases hnumber t ht with ⟨hdigits, hle⟩
            refine ⟨hpositive t ht, ?_⟩
            rw [atoi_digits hdigits (by omega)]
            omega
          have hshort : r.length < connPathLen := hfits
          have hlong : r.length < rdWsUrlMaxLen := Nat.lt_trans hshort (by decide)
          rw [haccepted, if_neg Bool.false_ne_true, if_neg Bool.false_ne_true,
            Option.getD_some, Option.getD_some, strncpy_of_lt hhost, strncpy_of_lt hshort,
            strncpy_of_lt hlong]

/-- The URL is read as promised exactly if each of the three parsers refuses it or finds a
number for a port and parts that fit. -/
theorem exact_url_iff (hostSize pathSize : Nat) (url : List UInt8) :
    ExactUrl hostSize pathSize url <->
      EndpointFits (wsParts url) ∧ WsUrlFits (wsParts url) ∧
        HttpUrlFits hostSize pathSize (httpParts url) := by
  constructor
  · intro h
    exact ⟨(endpoint_exact_iff url).mp h.endpoint, (ws_exact_iff url).mp h.ws,
      (http_exact_iff hostSize pathSize url).mp h.http⟩
  · rintro ⟨hendpoint, hws, hhttp⟩
    constructor
    · exact (endpoint_exact_iff url).mpr hendpoint
    · exact (ws_exact_iff url).mpr hws
    · exact (http_exact_iff hostSize pathSize url).mpr hhttp
    · rintro u scheme hscheme rfl hhost hpath
      exact u.endpoint_back hscheme hhost hpath
    · rintro u scheme hscheme rfl hhost hpath
      exact u.ws_back hscheme hhost hpath
    · rintro u ssl rfl hhost hpath
      exact u.http_back ssl hhost hpath
    · exact fun hpath => parsers_agree hpath hendpoint

/-- A port above the range, which one of the two parsers of WebSocket URLs accepts, and text
behind the digits of a port, which both accept. -/
theorem odd_ports_accepted :
    (parseEndpoint (utf8 "wss://h:70000/p") =
        some { host := utf8 "h", port := 70000, path := utf8 "/p" } ∧
      parseWsUrl (utf8 "wss://h:70000/p") = none ∧
      parseWsUrl (utf8 "wss://h:443x/p") =
        some { host := utf8 "h", port := 443, path := utf8 "/p" }) ∧
      ¬ ExactUrl 256 2048 (utf8 "wss://h:70000/p") ∧
      ¬ ExactUrl 256 2048 (utf8 "wss://h:443x/p") := by
  have hlarge : parseEndpoint (utf8 "wss://h:70000/p") =
      some { host := utf8 "h", port := 70000, path := utf8 "/p" } := by
    decide
  have htrailing : parseWsUrl (utf8 "wss://h:443x/p") =
      some { host := utf8 "h", port := 443, path := utf8 "/p" } := by
    decide
  refine ⟨⟨hlarge, by decide, htrailing⟩, ?_, ?_⟩
  · intro h
    have hport := (h.endpoint _ hlarge).port
    have hpart : (wsParts (utf8 "wss://h:70000/p")).port = some (utf8 "70000") := by decide
    rw [ExactPort, hpart] at hport
    exact absurd hport.right.right.right (by decide)
  · intro h
    have hport := (h.ws _ htrailing).port
    have hpart : (wsParts (utf8 "wss://h:443x/p")).port = some (utf8 "443x") := by decide
    rw [ExactPort, hpart] at hport
    exact absurd hport.left (by decide)

end Agent
end LeoOne
