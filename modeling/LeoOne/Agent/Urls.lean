import LeoOne.Agent.CommandParameters
import LeoOne.Foundation.Address

/-!
# The URLs of the agent

Three functions take a URL apart: `_parse_endpoint` of `connection.c` for the endpoint of
the configuration, `_parse_ws_url` of `remote_desktop.c` and `leo_http_parse_url` of
`http_url.c` for what the backend sends.  A URL is a scheme and an address behind it; the
host ends with the first colon or slash.
-/

namespace LeoOne
namespace Agent

open Foundation
open Wire

/-!
## The endpoint of the configuration
-/

/-- The size of `conn->host`. -/
def connHostLen : Nat := 256

/-- The size of `conn->path`. -/
def connPathLen : Nat := 256

/-- `_parse_endpoint`, into buffers that `calloc` has cleared. -/
def parseEndpoint (endpoint : List UInt8) : Option WsUrl :=
  let p := stripScheme endpoint
  let slash := p.findIdx? (· = 47)
  let colon := p.findIdx? (· = 58)
  let path :=
    strncpy
      (match slash with
        | some i => p.drop i
        | none => utf8 "/ws/agent")
      connPathLen
  let finish (host : List UInt8) (port : Int) : Option WsUrl :=
    if host ≠ [] ∧ 0 < port then some { host := host, port := port, path := path } else none
  let withPort (i : Nat) : Option WsUrl :=
    if connHostLen ≤ i then none else finish (p.take i) (atoi (p.drop (i + 1)))
  let withoutPort : Option WsUrl :=
    match slash with
    | some j => if connHostLen ≤ j then none else finish (p.take j) 443
    | none => finish (strncpy p connHostLen) 443
  match colon, slash with
  | some i, some j => if i < j then withPort i else withoutPort
  | some i, none => withPort i
  | none, _ => withoutPort

/-!
## Parts of a URL
-/

/-- A host, the text of a port and a path. -/
abbrev UrlParts : Type :=
  Address (58 : UInt8) 47

/-- The parts behind `wss://` or `ws://`. -/
def wsParts (url : List UInt8) : UrlParts :=
  Address.ofText (stripScheme url)

/-- The scheme of `leo_http_parse_url`, and what is behind it. -/
def httpScheme (url : List UInt8) : Bool × List UInt8 :=
  if (utf8 "https://").isPrefixOf url then (true, url.drop 8)
  else if (utf8 "http://").isPrefixOf url then (false, url.drop 7)
  else (false, url)

def httpParts (url : List UInt8) : UrlParts :=
  Address.ofText (httpScheme url).2

/-- The number of the port as the parsers read it. -/
def portRead (default : Int) (a : UrlParts) : Int :=
  match a.port with
  | none => default
  | some t => atoi t

theorem takeWhile_isDigit_append {r : List UInt8} (hr : forall b, b ∈ r.head? -> b = 47)
    (t : List UInt8) : (t ++ r).takeWhile isDigit = t.takeWhile isDigit := by
  induction t with
  | nil =>
      cases r with
      | nil =>
          rfl
      | cons b r =>
          cases hr b rfl
          rfl
  | cons b t ih =>
      rw [List.cons_append, List.takeWhile_cons, List.takeWhile_cons, ih]

/-- The path behind a port does not change its number. -/
theorem atoi_append_path {r : List UInt8} (hr : forall b, b ∈ r.head? -> b = 47)
    (t : List UInt8) : atoi (t ++ r) = atoi t := by
  have hread : strtol (t ++ r) = strtol t := by
    induction t with
    | nil =>
        cases r with
        | nil =>
            rfl
        | cons b r =>
            cases hr b rfl
            rfl
    | cons b t ih =>
        cases hspace : isSpace b with
        | true =>
            rw [List.cons_append, strtol_space hspace, strtol_space hspace, ih]
        | false =>
            have hstay : forall s : List UInt8, (b :: s).dropWhile isSpace = b :: s := by
              intro s
              exact List.dropWhile_cons_of_neg (by rw [hspace]; exact Bool.false_ne_true)
            by_cases hminus : b = 45
            · subst hminus
              rw [List.cons_append, strtol, strtol, hstay, hstay]
              simp only [takeWhile_isDigit_append hr]
            · by_cases hplus : b = 43
              · subst hplus
                rw [List.cons_append, strtol, strtol, hstay, hstay]
                simp only [takeWhile_isDigit_append hr]
              · rw [List.cons_append, strtol_plain hspace hminus hplus,
                  strtol_plain hspace hminus hplus, ← List.cons_append,
                  takeWhile_isDigit_append hr]
  rw [atoi, atoi, hread]

/-!
## The parsers on the parts
-/

/-- What `_parse_ws_url` and `leo_http_parse_url` refuse. -/
def refusesUrl (hostSize : Nat) (a : UrlParts) : Bool :=
  a.host = [] || hostSize ≤ a.host.length ||
    a.port.any fun t => atoi t ≤ 0 || 65535 < atoi t

/-- What `_parse_endpoint` refuses: a host alone may be too long, and a port too large. -/
def refusesEndpoint (a : UrlParts) : Bool :=
  a.host = [] || ((a.port.isSome || a.path.isSome) && connHostLen ≤ a.host.length) ||
    a.port.any fun t => atoi t ≤ 0

section Located

variable {p : List UInt8} {a : UrlParts}

/-- The path, or its default. -/
theorem path_branch (h : p = a.text) (default : List UInt8) :
    (match p.findIdx? (fun b => decide (b = 47)) with
      | some i => p.drop i
      | none => default) = a.path.getD default := by
  rw [h]
  exact a.drop_slash (by decide) default

/-- A colon before the first slash is that of the port. -/
theorem filter_colon (h : p = a.text) :
    ((p.findIdx? fun b => decide (b = 58)).filter fun c =>
        (p.findIdx? fun b => decide (b = 47)).all fun s => decide (c < s)) =
      a.port.map fun _ => a.host.length := by
  rw [h, a.findIdx?_slash (by decide)]
  cases hport : a.port with
  | some t =>
      rcases a.findIdx?_colon hport with ⟨hcolon, _, _, hlt⟩
      rw [hcolon]
      apply Option.filter_eq_some_iff.mpr
      refine ⟨rfl, ?_⟩
      cases a.path with
      | some r =>
          exact decide_eq_true hlt
      | none =>
          rfl
  | none =>
      rcases a.findIdx?_no_port hport with ⟨hauthority, _, _, hlater⟩
      apply Option.filter_eq_none_iff.mpr
      intro i hi hall
      rcases hlater i hi with ⟨hle, hpath⟩
      cases hr : a.path with
      | some r =>
          rw [hr, hauthority] at hall
          exact absurd (of_decide_eq_true hall) (Nat.not_lt.mpr hle)
      | none =>
          exact hpath hr

/-- The branches for a URL with a port and for one without. -/
theorem port_branch {β : Type} (h : p = a.text) (withPort : Nat -> β) (withoutPort : β) :
    (match p.findIdx? (fun b => decide (b = 58)), p.findIdx? (fun b => decide (b = 47)) with
      | some i, some j => if i < j then withPort i else withoutPort
      | some i, none => withPort i
      | none, _ => withoutPort) =
      match a.port with
      | some _ => withPort a.host.length
      | none => withoutPort := by
  have hfilter := filter_colon h
  have hport : (match a.port.map fun _ => a.host.length with
      | some i => withPort i
      | none => withoutPort) =
      match a.port with
      | some _ => withPort a.host.length
      | none => withoutPort := by
    cases a.port <;> rfl
  rw [← hport, ← hfilter]
  cases p.findIdx? (fun b => decide (b = 58)) with
  | none =>
      rfl
  | some i =>
      cases p.findIdx? (fun b => decide (b = 47)) with
      | none =>
          rfl
      | some j =>
          by_cases hlt : i < j
          · have hkeep : (some i).filter (fun c => (some j).all fun s => decide (c < s)) =
                some i :=
              Option.filter_some_pos (decide_eq_true hlt)
            rw [hkeep]
            exact if_pos hlt
          · have hdrop : (some i).filter (fun c => (some j).all fun s => decide (c < s)) =
                none :=
              Option.filter_some_neg (decide_eq_false hlt)
            rw [hdrop]
            exact if_neg hlt

theorem take_host (h : p = a.text) : p.take a.host.length = a.host := by
  rw [h]
  cases hport : a.port with
  | none =>
      exact (a.findIdx?_no_port hport).right.left
  | some t =>
      exact (a.findIdx?_colon hport).right.left

theorem atoi_port (h : p = a.text) {t : List UInt8} (hport : a.port = some t) :
    atoi (p.drop (a.host.length + 1)) = atoi t := by
  rw [h, (a.findIdx?_colon hport).right.right.left]
  apply atoi_append_path
  intro b hb
  cases hpath : a.path with
  | none =>
      rw [hpath] at hb
      cases hb
  | some r =>
      rw [hpath, Option.getD_some, a.path_slash r hpath] at hb
      cases hb
      rfl

/-- Without a port the host ends with the first slash, or it is the whole text. -/
theorem slash_no_port (h : p = a.text) (hport : a.port = none) :
    p.findIdx? (fun b => decide (b = 47)) = (a.path.map fun _ => a.host.length) ∧
      (a.path = none -> p = a.host) := by
  rcases a.findIdx?_no_port hport with ⟨hauthority, htake, hlength, _⟩
  rw [h, a.findIdx?_slash (by decide), hauthority]
  refine ⟨rfl, ?_⟩
  intro hpath
  rw [← htake, List.take_of_length_le (Nat.le_of_eq (hlength hpath))]

theorem host_end (h : p = a.text) (hport : a.port = none) :
    (p.findIdx? fun b => decide (b = 47)).getD p.length = a.host.length := by
  rcases slash_no_port h hport with ⟨hslash, hwhole⟩
  rw [hslash]
  cases hpath : a.path with
  | none =>
      exact congrArg List.length (hwhole hpath)
  | some r =>
      rfl

end Located

theorem wsParts_text (url : List UInt8) : stripScheme url = (wsParts url).text :=
  (Address.text_ofText _).symm

theorem httpParts_text (url : List UInt8) : (httpScheme url).2 = (httpParts url).text :=
  (Address.text_ofText _).symm

/-- `_parse_ws_url` on the parts of a URL. -/
theorem parseWsUrl_eq (url : List UInt8) :
    parseWsUrl url =
      if refusesUrl rdHostLen (wsParts url) then none
      else
        some
          { host := (wsParts url).host
            port := portRead 443 (wsParts url)
            path := strncpy ((wsParts url).path.getD (utf8 "/")) rdWsUrlMaxLen } := by
  have htext := wsParts_text url
  generalize wsParts url = a at htext
  have hempty : a.host.length = 0 <-> a.host = [] := List.length_eq_zero_iff
  rw [← path_branch htext]
  refine (port_branch htext _ _).trans ?_
  cases hport : a.port with
  | some t =>
      simp only [take_host htext, atoi_port htext hport, refusesUrl, portRead, hport, hempty]
      grind
  | none =>
      simp only [host_end htext hport, take_host htext, refusesUrl, portRead, hport, hempty]
      grind

/-- `_parse_endpoint` on the parts of a URL. -/
theorem parseEndpoint_eq (url : List UInt8) :
    parseEndpoint url =
      if refusesEndpoint (wsParts url) then none
      else
        some
          { host := strncpy (wsParts url).host connHostLen
            port := portRead 443 (wsParts url)
            path := strncpy ((wsParts url).path.getD (utf8 "/ws/agent")) connPathLen } := by
  have htext := wsParts_text url
  generalize wsParts url = a at htext
  have hfits : a.host.length < connHostLen -> strncpy a.host connHostLen = a.host :=
    fun h => List.take_of_length_le (Nat.le_sub_one_of_lt h)
  have hempty : strncpy a.host connHostLen = [] <-> a.host = [] :=
    List.take_eq_nil_iff.trans (or_iff_right (by decide))
  rw [← path_branch htext]
  refine (port_branch htext _ _).trans ?_
  cases hport : a.port with
  | some t =>
      simp only [take_host htext, atoi_port htext hport, refusesEndpoint, portRead, hport]
      grind
  | none =>
      rcases slash_no_port htext hport with ⟨hslash, hwhole⟩
      cases hpath : a.path with
      | some r =>
          simp only [hslash, hpath, take_host htext, refusesEndpoint, portRead, hport,
            Option.map_some]
          grind
      | none =>
          have hp := hwhole hpath
          rw [hpath, Option.map_none, hp] at hslash
          simp only [hp, hslash, hpath, refusesEndpoint, portRead, hport]
          grind

/-- `leo_http_parse_url` on the parts of a URL. -/
theorem leoHttpParseUrl_eq (url : List UInt8) (hostSize pathSize : Nat) :
    leoHttpParseUrl url hostSize pathSize =
      if refusesUrl hostSize (httpParts url) then none
      else
        some
          { useSsl := (httpScheme url).1
            host := (httpParts url).host
            port := portRead (if (httpScheme url).1 then 443 else 80) (httpParts url)
            path := strncpy ((httpParts url).path.getD (utf8 "/")) pathSize } := by
  have htext := httpParts_text url
  have hscheme : (if (utf8 "https://").isPrefixOf url then (true, url.drop 8)
      else if (utf8 "http://").isPrefixOf url then (false, url.drop 7)
      else (false, url)) = httpScheme url :=
    rfl
  generalize httpParts url = a at htext
  simp only [leoHttpParseUrl, hscheme]
  generalize httpScheme url = scheme at htext
  rcases scheme with ⟨ssl, p⟩
  have hempty : a.host.length = 0 <-> a.host = [] := List.length_eq_zero_iff
  have hpath : (p.findIdx? fun b => decide (b = 47)).elim (utf8 "/") p.drop =
      a.path.getD (utf8 "/") := by
    rw [← path_branch htext]
    cases p.findIdx? fun b => decide (b = 47) <;> rfl
  simp only [filter_colon htext, hpath]
  cases hport : a.port with
  | some t =>
      simp only [Option.map_some, take_host htext, atoi_port htext hport, refusesUrl, portRead,
        hport]
      grind
  | none =>
      simp only [Option.map_none, host_end htext hport, take_host htext, refusesUrl, portRead,
        hport]
      grind

end Agent
end LeoOne
