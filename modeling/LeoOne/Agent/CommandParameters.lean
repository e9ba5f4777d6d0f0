import Mathlib.Data.List.Forall2
import LeoOne.Agent.Commands
import LeoOne.Agent.RemoteDesktop

/-!
# Parameters of commands

What the bodies of INSTALL_PKG, INSTALL_PATCHES and FILE_TRANSFER give, and what the
agent makes of it.  The dispatchers copy strings into buffers of fixed sizes, take only
so many items of a list, and pass over items and members of another type.  A file
transfer is checked again by `leo_file_transfer_run` before anything is done.
-/

namespace LeoOne
namespace Agent

open Wire

/-!
## The checks of `leo_file_transfer_run`
-/

/-- `strstr(name, "..")`. -/
def hasDots : List UInt8 -> Bool
  | [] => false
  | b :: name => (b = 46 && name.head? = some 46) || hasDots name

/-- `_filename_valid`. -/
def filenameValid (name : List UInt8) : Bool :=
  !(name.length = 0 || fileNameMaxLen ≤ name.length) &&
    !hasDots name && name.all fun b => !(b = 47 || b = 92)

/-- What `leo_http_parse_url` fills in. -/
structure HttpUrl where
  useSsl : Bool
  host : List UInt8
  port : Int
  path : List UInt8

/-- `leo_http_parse_url`, with the sizes of the two buffers. -/
def leoHttpParseUrl (url : List UInt8) (hostSize pathSize : Nat) : Option HttpUrl :=
  let (useSsl, p) :=
    if (utf8 "https://").isPrefixOf url then (true, url.drop 8)
    else if (utf8 "http://").isPrefixOf url then (false, url.drop 7)
    else (false, url)
  let slash := p.findIdx? fun b => b = 47
  let colon := p.findIdx? fun b => b = 58
  let path := strncpy (slash.elim (utf8 "/") p.drop) pathSize
  let hostEnd := slash.getD p.length
  match colon.filter fun c => slash.all fun s => c < s with
  | some c =>
      let port := atoi (p.drop (c + 1))
      if c = 0 || hostSize ≤ c then none
      else if port ≤ 0 || 65535 < port then none
      else some { useSsl := useSsl, host := p.take c, port := port, path := path }
  | none =>
      if hostEnd = 0 || hostSize ≤ hostEnd then none
      else
        some
          { useSsl := useSsl
            host := p.take hostEnd
            port := if useSsl then 443 else 80
            path := path }

/-- The first checks of `leo_file_transfer_run`: the text of the error. -/
def fileTransferRefusal (url name : List UInt8) : Option String :=
  if !filenameValid name then some "Nom de fichier invalide"
  else if (leoHttpParseUrl url 256 fileUrlMaxLen).isNone then
    some "URL de téléchargement invalide"
  else none

/-- `_dispatch_file_transfer`, with the checks that `leo_file_transfer_run` makes before it
does anything. -/
def startFileTransfer (body : Option Json) : Except String Order :=
  match dispatchFileTransfer body with
  | Except.ok (Order.fileTransfer url name sha256 size timeoutSecs) =>
      match fileTransferRefusal url name with
      | some message => Except.error message
      | none => Except.ok (Order.fileTransfer url name sha256 size timeoutSecs)
  | r => r

/-!
## What a body gives

An absent member and `null` give nothing.
-/

/-- The items that a member gives for a list: those of an array, or the value itself. -/
def givenItems : Option Json -> List Json
  | none => []
  | some Json.null => []
  | some (Json.arr items) => items
  | some value => [value]

/-- The items that a member gives for one element. -/
def givenItem : Option Json -> List Json
  | none => []
  | some Json.null => []
  | some value => [value]

/-- The packages that a body gives. -/
def givenPackages (body : Json) : List Json :=
  givenItems (body.getObjectItem "packages") ++ givenItem (body.getObjectItem "package")

/-- The patches that a body gives. -/
def givenPatches (body : Json) : List Json :=
  givenItems (body.getObjectItem "patch_ids")

/-- The strings are the items, in full and in order. -/
def GivesStrings (items : List Json) (used : List (List UInt8)) : Prop :=
  List.Forall₂ (fun item bytes => exists s, item = Json.str s ∧ utf8 s = bytes) items used

/-- The text is that of the member, in full; an absent one gives the empty text. -/
def GivesText : Option Json -> List UInt8 -> Prop
  | none, used => used = []
  | some Json.null, used => used = []
  | some (Json.str s), used => used = utf8 s
  | some _, _ => False

/-- The number is that of the member; an absent one gives zero. -/
def GivesSize : Option Json -> Nat -> Prop
  | none, used => used = 0
  | some Json.null, used => used = 0
  | some (Json.num v), used => v.mantissa = used * 10 ^ v.exponent
  | some _, _ => False

/-- What is executed is what the body gives. -/
def Gives (body : Json) : Order -> Prop
  | Order.installPkg names _ => GivesStrings (givenPackages body) names
  | Order.installPatches ids _ _ => GivesStrings (givenPatches body) ids
  | Order.fileTransfer url name sha256 size _ =>
      GivesText (body.getObjectItem "download_url") url ∧
        GivesText (body.getObjectItem "filename") name ∧
        GivesText (body.getObjectItem "sha256") sha256 ∧
        GivesSize (body.getObjectItem "size_bytes") size
  | _ => False

/-- An error is answered, or what is executed is what the body gives. -/
def AnswersFaithfully (body : Option Json) : Except String Order -> Prop
  | Except.error _ => True
  | Except.ok order => exists b, body = some b ∧ Gives b order

/-!
## The conditions
-/

/-- A string without NUL that a buffer of this size holds. -/
def isHeld (size : Nat) : Json -> Bool
  | Json.str s => (utf8 s).all (fun b => b ≠ 0) && (utf8 s).length < size
  | _ => false

/-- At most `count` items, all of them strings that the buffers hold. -/
def areHeld (count size : Nat) (items : List Json) : Bool :=
  items.length ≤ count && items.all (isHeld size)

/-- A member that gives nothing, or a string that the buffer holds. -/
def textHeld (size : Nat) : Option Json -> Bool
  | none => true
  | some Json.null => true
  | some value => isHeld size value

/-- A member that gives nothing, or a natural number that is a double below 2^64. -/
def SizeHeld : Option Json -> Prop
  | none => True
  | some Json.null => True
  | some (Json.num v) =>
      exists n, n < 2 ^ 64 ∧ toDouble n = n ∧ v.mantissa = n * 10 ^ v.exponent
  | some _ => False

/-- No name is found, or one of the first 32 is not a name of a package. -/
def pkgRefused (body : Option Json) : Bool :=
  (pkgNames body).length = 0 || (pkgNames body).any fun name => !pkgNameValid name

/-- At most 32 names are given, as strings that fit, by one of the two members. -/
def pkgHeld (body : Json) : Bool :=
  areHeld pkgMaxCount (pkgNameMaxLen + 1) (givenPackages body) &&
    ((givenItems (body.getObjectItem "packages")).isEmpty ||
      (givenItem (body.getObjectItem "package")).isEmpty)

def patchesRefused (body : Option Json) : Bool :=
  (patchNames body).length = 0 || (patchNames body).any fun id => !patchIdValid id

def patchesHeld (body : Json) : Bool :=
  areHeld patchInstallMaxCount patchIdMaxLen (givenPatches body)

/-- The URL or the file name is missing, or not valid as it stands in its buffer. -/
def fileRefused (body : Option Json) : Bool :=
  let url := (body.bind fun b => stringItem b "download_url").getD []
  let name := (body.bind fun b => stringItem b "filename").getD []
  url.isEmpty || name.isEmpty ||
    (fileTransferRefusal (strncpy url fileUrlMaxLen) (strncpy name fileNameMaxLen)).isSome

def FileHeld (body : Json) : Prop :=
  textHeld fileUrlMaxLen (body.getObjectItem "download_url") = true ∧
    textHeld fileNameMaxLen (body.getObjectItem "filename") = true ∧
    textHeld fileSha256HexLen (body.getObjectItem "sha256") = true ∧
    SizeHeld (body.getObjectItem "size_bytes")

/-!
## Strings
-/

/-- A copy of a string is the string exactly if it has no NUL and fits. -/
theorem strncpy_cString_iff (s : String) {size : Nat} (hsize : 0 < size) :
    utf8 s = strncpy (cString s) size <-> isHeld size (Json.str s) = true := by
  have hheld : isHeld size (Json.str s) = true <->
      cString s = utf8 s ∧ (utf8 s).length < size := by
    rw [isHeld, Bool.and_eq_true, decide_eq_true_eq, cString, List.takeWhile_eq_self_iff,
      List.all_eq_true]
  rw [hheld]
  constructor
  · intro heq
    have hlength := congrArg List.length heq
    rw [strncpy, List.length_take] at hlength
    have hinitial : cString s <+: utf8 s := List.takeWhile_prefix _
    have hle := hinitial.length_le
    exact ⟨hinitial.eq_of_length (by omega), by omega⟩
  · rintro ⟨hwhole, hfits⟩
    rw [hwhole, strncpy, List.take_of_length_le (by omega)]

theorem givesStrings_nil {item : Json} {items : List Json} :
    ¬ GivesStrings (item :: items) [] := by
  intro h
  cases h

theorem givesStrings_other {item : Json} (hother : forall s, item ≠ Json.str s)
    {items : List Json} {used : List (List UInt8)} : ¬ GivesStrings (item :: items) used := by
  intro h
  cases h with
  | cons hhead _ =>
      rcases hhead with ⟨s, heq, _⟩
      exact hother s heq

theorem stringItems_str (s : String) (items : List Json) :
    stringItems (Json.str s :: items) = cString s :: stringItems items := rfl

theorem not_isHeld_other {item : Json} (hother : forall s, item ≠ Json.str s) (size : Nat) :
    isHeld size item = false := by
  cases item with
  | str s => exact absurd rfl (hother s)
  | null => rfl
  | bool b => rfl
  | num v => rfl
  | arr items' => rfl
  | obj fields => rfl

/-- The copies of the first strings of a list are its items exactly if they are all held. -/
theorem givesStrings_copies_iff (items : List Json) (count : Nat) {size : Nat}
    (hsize : 0 < size) :
    GivesStrings items (((stringItems items).take count).map fun s => strncpy s size) <->
      areHeld count size items = true := by
  induction items generalizing count with
  | nil =>
      have hnil : (stringItems []).take count = [] := List.take_nil
      rw [hnil]
      refine ⟨fun _ => ?_, fun _ => List.Forall₂.nil⟩
      rw [areHeld, List.all_nil, Bool.and_true, decide_eq_true_eq]
      exact Nat.zero_le count
  | cons item items ih =>
      by_cases hstring : exists s, item = Json.str s
      · rcases hstring with ⟨s, rfl⟩
        cases count with
        | zero =>
            refine ⟨fun h => absurd h givesStrings_nil, fun h => ?_⟩
            rw [areHeld, Bool.and_eq_true, decide_eq_true_eq] at h
            exact absurd h.left (Nat.not_succ_le_zero _)
        | succ count =>
            have hhead : (exists s', Json.str s = Json.str s' ∧
                utf8 s' = strncpy (cString s) size) <-> isHeld size (Json.str s) = true := by
              rw [← strncpy_cString_iff s hsize]
              constructor
              · rintro ⟨s', heq, hcopy⟩
                cases heq
                exact hcopy
              · intro hcopy
                exact ⟨s, rfl, hcopy⟩
            have htail := ih count
            rw [areHeld, Bool.and_eq_true, decide_eq_true_eq] at htail
            rw [stringItems_str, List.take_succ_cons, List.map_cons, GivesStrings,
              List.forall₂_cons, hhead, areHeld, Bool.and_eq_true, decide_eq_true_eq,
              List.all_cons, Bool.and_eq_true, List.length_cons, Nat.succ_le_succ_iff]
            unfold GivesStrings at htail
            rw [htail]
            tauto
      · have hother : forall s, item ≠ Json.str s := fun s heq => hstring ⟨s, heq⟩
        refine ⟨fun h => absurd h (givesStrings_other hother), fun h => ?_⟩
        rw [areHeld, Bool.and_eq_true, List.all_cons, not_isHeld_other hother size] at h
        exact absurd h.right Bool.false_ne_true

/-!
## Packages and patches
-/

theorem GivesStrings.length_eq {items : List Json} {used : List (List UInt8)}
    (h : GivesStrings items used) : items.length = used.length :=
  List.Forall₂.length_eq h

theorem length_stringItems_le (items : List Json) :
    (stringItems items).length ≤ items.length :=
  List.length_filterMap_le _ _

/-- A dispatcher that answers an error if it refuses, and else gives what is held. -/
theorem faithful_iff {body : Option Json} {answer : Except String Order} {refused : Bool}
    {Held : Json -> Prop}
    (herror : refused = true -> exists message, answer = Except.error message)
    (hok : refused = false -> exists b order, body = some b ∧ answer = Except.ok order ∧
      (Gives b order <-> Held b)) :
    AnswersFaithfully body answer <-> refused = true ∨ exists b, body = some b ∧ Held b := by
  cases refused with
  | true =>
      rcases herror rfl with ⟨message, rfl⟩
      exact ⟨fun _ => Or.inl rfl, fun _ => trivial⟩
  | false =>
      rcases hok rfl with ⟨b, order, rfl, rfl, hgives⟩
      constructor
      · rintro ⟨b', heq, horder⟩
        cases heq
        exact Or.inr ⟨b, rfl, hgives.mp horder⟩
      · rintro (hfalse | ⟨b', heq, hheld⟩)
        · cases hfalse
        · cases heq
          exact ⟨b, rfl, hgives.mpr hheld⟩

/-- The names of one member, if the other one gives nothing. -/
theorem givesStrings_pkgNames_iff {b : Json} (h : pkgNames (some b) ≠ []) :
    GivesStrings (givenPackages b)
        ((pkgNames (some b)).map fun name => strncpy name (pkgNameMaxLen + 1)) <->
      pkgHeld b = true := by
  rw [pkgHeld, Bool.and_eq_true, Bool.or_eq_true, List.isEmpty_iff, List.isEmpty_iff]
  unfold givenPackages
  by_cases harray : exists items, b.getObjectItem "packages" = some (Json.arr items)
  · rcases harray with ⟨items, hitems⟩
    have hnames : pkgNames (some b) = (stringItems items).take pkgMaxCount := by
      rw [pkgNames, hitems]
    have hgiven : givenItems (b.getObjectItem "packages") = items := by
      rw [hitems]
      rfl
    have hsome : items ≠ [] := by
      rintro rfl
      exact h (hnames.trans List.take_nil)
    have hcopies := givesStrings_copies_iff items pkgMaxCount
      (Nat.succ_pos pkgNameMaxLen)
    rw [hnames, hgiven]
    constructor
    · intro hgives
      have hlength := hgives.length_eq
      have hle := length_stringItems_le items
      rw [List.length_append, List.length_map, List.length_take] at hlength
      have hnone : givenItem (b.getObjectItem "package") = [] :=
        List.length_eq_zero_iff.mp (by omega)
      rw [hnone, List.append_nil] at hgives ⊢
      exact ⟨hcopies.mp hgives, Or.inr rfl⟩
    · rintro ⟨hheld, hone⟩
      have hnone := hone.resolve_left hsome
      rw [hnone, List.append_nil] at hheld ⊢
      exact hcopies.mpr hheld
  · have hnames : pkgNames (some b) = (stringItem b "package").toList := by
      rw [pkgNames]
      split
      · rename_i items hitems
        exact absurd ⟨items, hitems⟩ harray
      · rfl
    obtain ⟨s, hs⟩ : exists s, b.getObjectItem "package" = some (Json.str s) := by
      rw [hnames, stringItem] at h
      split at h
      · rename_i s hs
        exact ⟨s, hs⟩
      · exact absurd rfl h
    have hgiven : givenItem (b.getObjectItem "package") = [Json.str s] := by
      rw [hs]
      rfl
    have hcopies := givesStrings_copies_iff [Json.str s] pkgMaxCount
      (Nat.succ_pos pkgNameMaxLen)
    have hitem : (stringItem b "package").toList =
        (stringItems [Json.str s]).take pkgMaxCount := by
      rw [stringItem, hs]
      rfl
    rw [hnames, hitem, hgiven]
    constructor
    · intro hgives
      have hlength := hgives.length_eq
      have hle := length_stringItems_le [Json.str s]
      rw [List.length_append, List.length_map, List.length_take] at hlength
      rw [List.length_singleton] at hle hlength
      have hnone : givenItems (b.getObjectItem "packages") = [] :=
        List.length_eq_zero_iff.mp (by omega)
      rw [hnone, List.nil_append] at hgives ⊢
      exact ⟨hcopies.mp hgives, Or.inl rfl⟩
    · rintro ⟨hheld, hone⟩
      have hnone := hone.resolve_right (List.cons_ne_nil _ _)
      rw [hnone, List.nil_append] at hheld ⊢
      exact hcopies.mpr hheld

theorem installPkg_faithful_iff (body : Option Json) :
    AnswersFaithfully body (dispatchInstallPkg body) <->
      pkgRefused body = true ∨ exists b, body = some b ∧ pkgHeld b = true := by
  apply faithful_iff
  · intro hrefused
    rw [pkgRefused, Bool.or_eq_true, decide_eq_true_eq] at hrefused
    unfold dispatchInstallPkg
    by_cases hempty : (pkgNames body).length = 0
    · exact ⟨_, if_pos hempty⟩
    · have hinvalid := hrefused.resolve_left hempty
      exact ⟨_, (if_neg hempty).trans (if_pos hinvalid)⟩
  · intro haccepted
    rw [pkgRefused, Bool.or_eq_false_iff, decide_eq_false_iff_not] at haccepted
    rcases haccepted with ⟨hnames, hvalid⟩
    cases body with
    | none =>
        exact absurd rfl hnames
    | some b =>
        refine ⟨b, _, rfl, (if_neg hnames).trans (if_neg ?_), ?_⟩
        · rw [hvalid]
          exact Bool.false_ne_true
        · exact givesStrings_pkgNames_iff fun hnil => hnames (congrArg List.length hnil)

theorem strncpy_strncpy (s : List UInt8) (size : Nat) :
    strncpy (strncpy s size) size = strncpy s size := by
  rw [strncpy, strncpy, List.take_take, Nat.min_self]

theorem installPatches_faithful_iff (body : Option Json) :
    AnswersFaithfully body (dispatchInstallPatches body) <->
      patchesRefused body = true ∨ exists b, body = some b ∧ patchesHeld b = true := by
  apply faithful_iff
  · intro hrefused
    rw [patchesRefused, Bool.or_eq_true, decide_eq_true_eq] at hrefused
    unfold dispatchInstallPatches
    by_cases hempty : (patchNames body).length = 0
    · exact ⟨_, if_pos hempty⟩
    · have hinvalid := hrefused.resolve_left hempty
      exact ⟨_, (if_neg hempty).trans (if_pos hinvalid)⟩
  · intro haccepted
    rw [patchesRefused, Bool.or_eq_false_iff, decide_eq_false_iff_not] at haccepted
    rcases haccepted with ⟨hnames, hvalid⟩
    cases body with
    | none =>
        exact absurd rfl hnames
    | some b =>
        obtain ⟨items, hitems⟩ : exists items,
            b.getObjectItem "patch_ids" = some (Json.arr items) := by
          unfold patchNames at hnames
          rw [Option.bind_some] at hnames
          split at hnames
          · rename_i items hitems
            exact ⟨items, hitems⟩
          · exact absurd rfl hnames
        have hcollected : patchNames (some b) =
            ((stringItems items).take patchInstallMaxCount).map fun id =>
              strncpy id patchIdMaxLen := by
          unfold patchNames
          rw [Option.bind_some, hitems]
        have hcopied : ((patchNames (some b)).map fun id => strncpy id patchIdMaxLen) =
            patchNames (some b) := by
          rw [hcollected, List.map_map]
          exact List.map_congr_left fun id _ => strncpy_strncpy id patchIdMaxLen
        have hgiven : givenPatches b = items := by
          unfold givenPatches
          rw [hitems]
          rfl
        refine ⟨b, _, rfl, (if_neg hnames).trans (if_neg ?_), ?_⟩
        · rw [hvalid]
          exact Bool.false_ne_true
        · unfold Gives patchesHeld
          rw [hgiven, hcopied, hcollected]
          exact givesStrings_copies_iff items patchInstallMaxCount (by decide)

/-!
## File transfers
-/

theorem givesText_copy_iff (b : Json) (key : String) {size : Nat} (hsize : 0 < size) :
    GivesText (b.getObjectItem key) (strncpy ((stringItem b key).getD []) size) <->
      textHeld size (b.getObjectItem key) = true := by
  have hempty : strncpy [] size = [] := List.take_nil
  unfold stringItem
  cases hitem : b.getObjectItem key with
  | none =>
      exact ⟨fun _ => rfl, fun _ => hempty⟩
  | some value =>
      cases value with
      | null =>
          exact ⟨fun _ => rfl, fun _ => hempty⟩
      | str s =>
          exact eq_comm.trans (strncpy_cString_iff s hsize)
      | bool v =>
          exact ⟨False.elim, fun h => absurd h Bool.false_ne_true⟩
      | num v =>
          exact ⟨False.elim, fun h => absurd h Bool.false_ne_true⟩
      | arr items =>
          exact ⟨False.elim, fun h => absurd h Bool.false_ne_true⟩
      | obj fields =>
          exact ⟨False.elim, fun h => absurd h Bool.false_ne_true⟩

/-- A positive number is kept exactly if it is an integer that is a double below 2^64. -/
theorem uint64Cast_eq_iff {v : Decimal} (hpos : 0 < v.mantissa) :
    v.mantissa = uint64Cast v * 10 ^ v.exponent <->
      exists n : Nat, n < 2 ^ 64 ∧ toDouble n = n ∧ v.mantissa = n * 10 ^ v.exponent := by
  have hcast : forall n : Nat, v.mantissa = n * 10 ^ v.exponent ->
      uint64Cast v = if toDouble n < 2 ^ 64 then toDouble n else 0 := by
    intro n hn
    have hnat : v.mantissa.toNat = n * 10 ^ v.exponent := by
      rw [hn]
      exact_mod_cast Int.toNat_natCast (n * 10 ^ v.exponent)
    unfold uint64Cast
    rw [hnat, doubleFloor_mul n (Nat.pow_pos (by decide))]
  constructor
  · intro heq
    have hsame := hcast (uint64Cast v) heq
    by_cases hlarge : toDouble (uint64Cast v) < 2 ^ 64
    · rw [if_pos hlarge] at hsame
      exact ⟨uint64Cast v, hsame.symm ▸ hlarge, hsame.symm, heq⟩
    · rw [if_neg hlarge] at hsame
      rw [hsame] at heq
      simp only [Nat.cast_zero, zero_mul] at heq
      omega
  · rintro ⟨n, hlt, hdouble, hn⟩
    rw [hcast n hn, hdouble, if_pos hlt]
    exact hn

theorem givesSize_iff (b : Json) :
    GivesSize (b.getObjectItem "size_bytes")
        (match numberItem b "size_bytes" with
          | some v => if isAbove v 0 then uint64Cast v else 0
          | none => 0) <->
      SizeHeld (b.getObjectItem "size_bytes") := by
  unfold numberItem
  cases hitem : b.getObjectItem "size_bytes" with
  | none =>
      exact ⟨fun _ => trivial, fun _ => rfl⟩
  | some value =>
      cases value with
      | null =>
          exact ⟨fun _ => trivial, fun _ => rfl⟩
      | num v =>
          have habove : isAbove v 0 = true <-> 0 < v.mantissa := by
            rw [isAbove, decide_eq_true_eq, zero_mul]
          by_cases hpos : 0 < v.mantissa
          · simp only [if_pos (habove.mpr hpos)]
            exact uint64Cast_eq_iff hpos
          · have hnot : ¬ isAbove v 0 = true := fun h => hpos (habove.mp h)
            simp only [if_neg hnot]
            constructor
            · intro heq
              exact ⟨0, by decide, by decide, heq⟩
            · rintro ⟨n, _, _, hn⟩
              have hnonneg : (0 : Int) ≤ n * 10 ^ v.exponent := by positivity
              show v.mantissa = (0 : Nat) * 10 ^ v.exponent
              rw [Nat.cast_zero, zero_mul]
              omega
      | str s =>
          exact Iff.rfl
      | bool v =>
          exact Iff.rfl
      | arr items =>
          exact Iff.rfl
      | obj fields =>
          exact Iff.rfl

theorem dispatchFileTransfer_missing {b : Json}
    (h : (stringItem b "download_url").getD [] = [] ∨ (stringItem b "filename").getD [] = []) :
    exists message, dispatchFileTransfer (some b) = Except.error message := by
  rcases h with hurl | hname
  · simp only [dispatchFileTransfer, hurl]
    exact ⟨_, rfl⟩
  · simp only [dispatchFileTransfer, hname]
    cases (stringItem b "download_url").getD [] with
    | nil => exact ⟨_, rfl⟩
    | cons c url => exact ⟨_, rfl⟩

theorem dispatchFileTransfer_present {b : Json}
    (hurl : (stringItem b "download_url").getD [] ≠ [])
    (hname : (stringItem b "filename").getD [] ≠ []) :
    exists timeoutSecs, dispatchFileTransfer (some b) = Except.ok (Order.fileTransfer
      (strncpy ((stringItem b "download_url").getD []) fileUrlMaxLen)
      (strncpy ((stringItem b "filename").getD []) fileNameMaxLen)
      (strncpy ((stringItem b "sha256").getD []) fileSha256HexLen)
      (match numberItem b "size_bytes" with
        | some v => if isAbove v 0 then uint64Cast v else 0
        | none => 0)
      timeoutSecs) := by
  rcases List.exists_cons_of_ne_nil hurl with ⟨c, url, hu⟩
  rcases List.exists_cons_of_ne_nil hname with ⟨c', name, hn⟩
  simp only [dispatchFileTransfer, hu, hn]
  exact ⟨_, rfl⟩

theorem startFileTransfer_of_dispatch {body : Option Json}
    {url name sha256 : List UInt8} {size : Nat} {timeoutSecs : Int}
    (h : dispatchFileTransfer body =
      Except.ok (Order.fileTransfer url name sha256 size timeoutSecs)) :
    startFileTransfer body =
      match fileTransferRefusal url name with
      | some message => Except.error message
      | none => Except.ok (Order.fileTransfer url name sha256 size timeoutSecs) := by
  rw [startFileTransfer, h]

theorem fileTransfer_faithful_iff (body : Option Json) :
    AnswersFaithfully body (startFileTransfer body) <->
      fileRefused body = true ∨ exists b, body = some b ∧ FileHeld b := by
  cases body with
  | none =>
      exact ⟨fun _ => Or.inl rfl, fun _ => trivial⟩
  | some b =>
      have hrefused : fileRefused (some b) = true <->
          ((stringItem b "download_url").getD [] = [] ∨
            (stringItem b "filename").getD [] = []) ∨
          (fileTransferRefusal (strncpy ((stringItem b "download_url").getD []) fileUrlMaxLen)
            (strncpy ((stringItem b "filename").getD []) fileNameMaxLen)).isSome = true := by
        unfold fileRefused
        simp only [Option.bind_some, Bool.or_eq_true, List.isEmpty_iff]
      apply faithful_iff
      · intro h
        rw [hrefused] at h
        by_cases hmissing : (stringItem b "download_url").getD [] = [] ∨
            (stringItem b "filename").getD [] = []
        · rcases dispatchFileTransfer_missing hmissing with ⟨message, herror⟩
          refine ⟨message, ?_⟩
          rw [startFileTransfer, herror]
        · rcases not_or.mp hmissing with ⟨hurl, hname⟩
          rcases dispatchFileTransfer_present hurl hname with ⟨timeoutSecs, hok⟩
          rcases Option.isSome_iff_exists.mp (h.resolve_left hmissing) with ⟨message, hmessage⟩
          refine ⟨message, ?_⟩
          rw [startFileTransfer_of_dispatch hok, hmessage]
      · intro h
        have haccepted := fun hbad => Bool.false_ne_true (h.symm.trans (hrefused.mpr hbad))
        have hmissing := fun hbad => haccepted (Or.inl hbad)
        rcases not_or.mp hmissing with ⟨hurl, hname⟩
        rcases dispatchFileTransfer_present hurl hname with ⟨timeoutSecs, hok⟩
        have hnone := Option.not_isSome_iff_eq_none.mp fun hbad => haccepted (Or.inr hbad)
        have hstart := startFileTransfer_of_dispatch hok
        rw [hnone] at hstart
        refine ⟨b, _, rfl, hstart, ?_⟩
        exact and_congr (givesText_copy_iff b "download_url" (by decide))
          (and_congr (givesText_copy_iff b "filename" (by decide))
            (and_congr (givesText_copy_iff b "sha256" (by decide)) (givesSize_iff b)))

/-- A body of one of the three commands is refused, or what is executed is what it gives,
exactly if a refusal is due or every parameter fits the place it is copied to: at most 32
packages of at most 128 bytes, given by one of the two members, at most 64 patches of at
most 159 bytes, a URL of at most 1023, a file name of at most 254 and a hash of at most
64 bytes, strings without NUL, and a size that is a natural number and a double. -/
theorem command_parameters_given_iff (body : Option Json) :
    (AnswersFaithfully body (dispatchInstallPkg body) <->
      pkgRefused body = true ∨ exists b, body = some b ∧ pkgHeld b = true) ∧
    (AnswersFaithfully body (dispatchInstallPatches body) <->
      patchesRefused body = true ∨ exists b, body = some b ∧ patchesHeld b = true) ∧
    (AnswersFaithfully body (startFileTransfer body) <->
      fileRefused body = true ∨ exists b, body = some b ∧ FileHeld b) :=
  ⟨installPkg_faithful_iff body, installPatches_faithful_iff body,
    fileTransfer_faithful_iff body⟩

namespace Sample

def manyPackages : Json :=
  Json.obj [("packages", Json.arr (List.replicate 33 (Json.str "vim")))]

def longPatchId : Json :=
  Json.obj [("patch_ids", Json.arr [Json.str (String.ofList (List.replicate 160 'a'))])]

def negativeSize : Json :=
  Json.obj
    [("download_url", Json.str "http://h/f"), ("filename", Json.str "f"),
      ("size_bytes", Json.num { mantissa := -1, exponent := 0 })]

end Sample

/-- Of 33 packages the last one is dropped, an identifier of 160 letters loses one, and a
file of the size -1 is taken for one of unknown size. -/
theorem parameters_altered :
    (¬ forall body, AnswersFaithfully body (dispatchInstallPkg body)) ∧
    (¬ forall body, AnswersFaithfully body (dispatchInstallPatches body)) ∧
    ¬ forall body, AnswersFaithfully body (startFileTransfer body) := by
  refine ⟨not_forall.mpr ⟨some Sample.manyPackages, ?_⟩,
    not_forall.mpr ⟨some Sample.longPatchId, ?_⟩,
    not_forall.mpr ⟨some Sample.negativeSize, ?_⟩⟩
  · rw [installPkg_faithful_iff]
    rintro (hrefused | ⟨b, heq, hheld⟩)
    · exact absurd hrefused (by decide)
    · cases heq
      exact absurd hheld (by decide)
  · rw [installPatches_faithful_iff]
    rintro (hrefused | ⟨b, heq, hheld⟩)
    · have haccepted : patchesRefused (some Sample.longPatchId) = false := by decide +kernel
      exact Bool.false_ne_true (haccepted.symm.trans hrefused)
    · have hlong : patchesHeld Sample.longPatchId = false := by decide +kernel
      rw [← Option.some.inj heq] at hheld
      exact Bool.false_ne_true (hlong.symm.trans hheld)
  · rw [fileTransfer_faithful_iff]
    rintro (hrefused | ⟨b, heq, hheld⟩)
    · exact absurd hrefused (by decide)
    · cases heq
      rcases hheld with ⟨_, _, _, n, _, _, hn⟩
      have hnonneg : (0 : Int) ≤ n * 10 ^ 0 := by positivity
      exact absurd (hn ▸ hnonneg) (by decide)

end Agent
end LeoOne
