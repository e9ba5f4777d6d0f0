import LeoOne.Agent.Commands
import LeoOne.Agent.Reports
import LeoOne.Agent.Strings
import LeoOne.Foundation.Address
import Mathlib.Data.List.Infix

/-!
# Lists of packages

`patches_linux.c` and `inventory_linux.c` read what `apt list --upgradable`,
`dnf check-update` and `dpkg-query` print, line by line into a buffer of 512 bytes, and
keep the lines of the form that they expect, as many as the table has room for.
-/

namespace LeoOne
namespace Agent

open Foundation
open Foundation.Settings
open Wire

/-!
## Reading a command's output
-/

/-- The line in the buffer, as a C string without its line end. -/
def chomp (line : List UInt8) : List UInt8 :=
  (line.takeWhile fun b => b ≠ 0).rdropWhile fun b => b = 10 || b = 13

/-- The loop over the lines: `n < max_items`, then `fgets`. -/
def collect {α : Type} (parse : List UInt8 -> Option α) : Nat -> List (List UInt8) -> List α
  | 0, _ => []
  | _ + 1, [] => []
  | max + 1, line :: ls =>
      match parse (chomp line) with
      | none => collect parse (max + 1) ls
      | some item => item :: collect parse max ls

/-- What `popen` gave to read; `char line[512]`. -/
def outputLines (output : List UInt8) : List (List UInt8) :=
  lines 10 511 output

/-- `tolower` in the C locale. -/
def tolower (b : UInt8) : UInt8 :=
  if 65 ≤ b && b ≤ 90 then b + 32 else b

/-- `_looks_security`; `lower` has 128 bytes. -/
def looksSecurity (word : List UInt8) : Bool :=
  decide (utf8 "security" <:+: (strncpy word 128).map tolower)

def severityOf (source : List UInt8) : LeoPatchSeverity :=
  if looksSecurity source then LeoPatchSeverity.critical else LeoPatchSeverity.important

/-- The title that both package managers get. -/
def patchTitle (name version : List UInt8) : List UInt8 :=
  strncpy (name ++ utf8 " → " ++ version) 256

/-- A buffer of `size` bytes that stays empty for a text that does not fit. -/
def whole (text : List UInt8) (size : Nat) : List UInt8 :=
  if text.length < size then text else []

/-- `_parse_apt_line`. -/
def parseAptLine (line : List UInt8) : Option LeoPatch :=
  match cut 47 line with
  | (_, none) => none
  | (name, some afterSlash) =>
      if name = [] then none
      else
        match cut 32 afterSlash with
        | (_, none) => none
        | (pocket, some afterPocket) =>
            match cut 32 afterPocket with
            | (_, none) => none
            | (version, some _) =>
                if name.length = 0 || 160 ≤ name.length || version.length = 0 then none
                else
                  some
                    { id := name
                      title := patchTitle name (whole version 64)
                      severity := severityOf (whole pocket 128)
                      sizeBytes := 0 }

/-- `_collect_apt`. -/
def collectApt (output : Option (List UInt8)) (maxItems : Nat) : List LeoPatch :=
  match output with
  | none => []
  | some output => collect parseAptLine maxItems (outputLines output)

/-- `%<width>s` of `sscanf`: the word, and what follows it. -/
def scanWord (width : Nat) (s : List UInt8) : Option (List UInt8 × List UInt8) :=
  let s := s.dropWhile isSpace
  let word := (s.takeWhile fun b => !isSpace b).take width
  if word = [] then none else some (word, s.drop word.length)

/-- `_parse_dnf_line`. -/
def parseDnfLine (line : List UInt8) : Option LeoPatch :=
  match scanWord 159 line with
  | none => none
  | some (nameArch, s) =>
      match scanWord 63 s with
      | none => none
      | some (version, s) =>
          match scanWord 63 s with
          | none => none
          | some (repo, _) =>
              if !version.contains 46 && !version.contains 45 then none
              else
                some
                  { id := strncpy nameArch 160
                    title := patchTitle nameArch version
                    severity := severityOf repo
                    sizeBytes := 0 }

/-- `_collect_dnf`. -/
def collectDnf (output : Option (List UInt8)) (maxItems : Nat) : List LeoPatch :=
  match output with
  | none => []
  | some output =>
      collect (fun line => if line = [] then none else parseDnfLine line) maxItems
        (outputLines output)

/-- The package manager of the machine with what its listing prints; nothing when `popen`
fails. -/
inductive PackageManager where
  | apt (output : Option (List UInt8))
  | dnf (output : Option (List UInt8))
  | none

/-- `_detect_pkgmgr`: which of the two programs can be executed. -/
def detectPkgmgr (aptGet dnf : Bool) (output : Option (List UInt8)) : PackageManager :=
  if aptGet then PackageManager.apt output
  else if dnf then PackageManager.dnf output
  else PackageManager.none

/-- `leo_patches_collect`; `none` is -1. -/
def leoPatchesCollect (manager : PackageManager) (maxItems : Int) : Option (List LeoPatch) :=
  if maxItems ≤ 0 then Option.none
  else
    match manager with
    | PackageManager.apt output => some (collectApt output maxItems.toNat)
    | PackageManager.dnf output => some (collectDnf output maxItems.toNat)
    | PackageManager.none => some []

/-- A line of `dpkg-query`: the package, the version and the maintainer between tabs. -/
def parseDpkgLine (line : List UInt8) : Option LeoSwItem :=
  match cut 9 line with
  | (_, none) => none
  | (package, some afterPackage) =>
      some
        { name := strncpy package 128
          version := strncpy (cut 9 afterPackage).1 64
          publisher := strncpy ((cut 9 afterPackage).2.getD []) 128
          installPath := [] }

/-- `leo_inventory_collect_sw`; `none` is -1. -/
def leoInventoryCollectSw (output : Option (List UInt8)) (maxItems : Int) :
    Option (List LeoSwItem) :=
  if maxItems ≤ 0 then none
  else
    match output with
    | none => some []
    | some output => some (collect parseDpkgLine maxItems.toNat (outputLines output))

/-!
## What the loop keeps
-/

/-- The table holds the first lines of the expected form. -/
theorem collect_eq {α : Type} (parse : List UInt8 -> Option α) (max : Nat)
    (ls : List (List UInt8)) :
    collect parse max ls = (ls.filterMap fun line => parse (chomp line)).take max := by
  induction ls generalizing max with
  | nil =>
      cases max <;> rfl
  | cons line ls ih =>
      cases max with
      | zero =>
          rfl
      | succ max =>
          rw [collect, List.filterMap_cons]
          cases parse (chomp line) with
          | none =>
              exact ih (max + 1)
          | some item =>
              exact congrArg (item :: ·) (ih max)

/-- A line that the buffer can hold: not too long, and a C string without a line end. -/
structure PlainLine (line : List UInt8) : Prop where
  fits : line.length < 511
  noNul : (0 : UInt8) ∉ line
  noNewline : (10 : UInt8) ∉ line
  noReturn : line.getLast? ≠ some 13

theorem chomp_newline {line : List UInt8} (h : PlainLine line) : chomp (line ++ [10]) = line := by
  have hwhole : ((line ++ [10]).takeWhile fun b => b ≠ 0) = line ++ [10] := by
    rw [List.takeWhile_eq_self_iff]
    intro b hb
    apply decide_eq_true
    rintro rfl
    rcases List.mem_append.mp hb with hb | hb
    · exact h.noNul hb
    · cases List.mem_singleton.mp hb
  rw [chomp, hwhole, List.rdropWhile_concat_pos _ _ _ rfl, List.rdropWhile_eq_self_iff]
  intro hne hend
  have hlast := List.getLast?_eq_getLast_of_ne_nil hne
  rw [Bool.or_eq_true, decide_eq_true_eq, decide_eq_true_eq] at hend
  rcases hend with hnewline | hreturn
  · exact h.noNewline (hnewline ▸ List.getLast_mem hne)
  · rw [hreturn] at hlast
    exact h.noReturn hlast

/-- Of a listing every line is read as it was printed. -/
theorem collect_unlines {α : Type} (parse : List UInt8 -> Option α) (max : Nat)
    {ls : List (List UInt8)} (h : forall line, line ∈ ls -> PlainLine line) :
    collect parse max (outputLines (unlines 10 ls)) = (ls.filterMap parse).take max := by
  have hlines : outputLines (unlines 10 ls) = ls.map fun line => line ++ [10] :=
    lines_unlines 10 fun line hline => ⟨(h line hline).noNewline, (h line hline).fits⟩
  rw [collect_eq, hlines, List.filterMap_map]
  congr 1
  apply List.filterMap_congr
  intro line hline
  exact congrArg parse (chomp_newline (h line hline))

/-!
## The lines of apt
-/

/-- A package that can be upgraded, as apt prints it. -/
structure AptPackage where
  name : List UInt8
  pocket : List UInt8
  version : List UInt8
  rest : List UInt8

namespace AptPackage

def line (p : AptPackage) : List UInt8 :=
  p.name ++ 47 :: (p.pocket ++ 32 :: (p.version ++ 32 :: p.rest))

/-- The patch that stands for it. -/
def patch (p : AptPackage) : LeoPatch where
  id := p.name
  title := patchTitle p.name (whole p.version 64)
  severity := severityOf (whole p.pocket 128)
  sizeBytes := 0

structure Plain (p : AptPackage) : Prop where
  named : p.name ≠ []
  versioned : p.version ≠ []
  name : (47 : UInt8) ∉ p.name
  pocket : (32 : UInt8) ∉ p.pocket
  version : (32 : UInt8) ∉ p.version
  line : PlainLine p.line

end AptPackage

theorem cut_separator {c : UInt8} {s : List UInt8} (h : c ∉ s) (rest : List UInt8) :
    cut c (s ++ c :: rest) = (s, some rest) :=
  cut_unique h (some rest)

theorem parseAptLine_line {p : AptPackage} (h : p.Plain) :
    parseAptLine p.line = if p.name.length < 160 then some p.patch else none := by
  have hname : p.name.length ≠ 0 := fun hzero => h.named (List.length_eq_zero_iff.mp hzero)
  have hversion : p.version.length ≠ 0 :=
    fun hzero => h.versioned (List.length_eq_zero_iff.mp hzero)
  rw [parseAptLine, AptPackage.line, cut_separator h.name]
  simp only [if_neg h.named, cut_separator h.pocket, cut_separator h.version, decide_eq_false hname,
    decide_eq_false hversion, Bool.false_or, Bool.or_false, decide_eq_true_eq]
  by_cases hfits : p.name.length < 160
  · rw [if_neg (Nat.not_le_of_lt hfits), if_pos hfits]
    rfl
  · rw [if_pos (Nat.le_of_not_lt hfits), if_neg hfits]

/-- A line without a slash, such as the first one of the listing, is skipped. -/
theorem parseAptLine_noSlash {line : List UInt8} (h : (47 : UInt8) ∉ line) :
    parseAptLine line = none := by
  have hcut : cut 47 line = (line, none) := by
    have := cut_unique h none
    rwa [tailText, List.append_nil] at this
  rw [parseAptLine, hcut]

/-- What is reported for a listing of apt: the packages in their order, each under exactly
its own name, as many as there is room for; only a name of 160 bytes or more is left
out. -/
theorem apt_listing_exact (heading : List (List UInt8)) (ps : List AptPackage)
    (hheading : forall line, line ∈ heading -> PlainLine line ∧ (47 : UInt8) ∉ line)
    (hps : forall p, p ∈ ps -> p.Plain) (maxItems : Nat) :
    collectApt (some (unlines 10 (heading ++ ps.map AptPackage.line))) maxItems =
      ((ps.filter fun p => p.name.length < 160).map AptPackage.patch).take maxItems := by
  have hplain : forall line, line ∈ heading ++ ps.map AptPackage.line -> PlainLine line := by
    intro line hline
    rcases List.mem_append.mp hline with hline | hline
    · exact (hheading line hline).left
    · rcases List.mem_map.mp hline with ⟨p, hp, rfl⟩
      exact (hps p hp).line
  have hskip : heading.filterMap parseAptLine = [] := by
    rw [List.filterMap_eq_nil_iff]
    exact fun line hline => parseAptLine_noSlash (hheading line hline).right
  have hkeep : (ps.map AptPackage.line).filterMap parseAptLine =
      (ps.filter fun p => p.name.length < 160).map AptPackage.patch := by
    rw [List.filterMap_map, ← List.filterMap_eq_map, List.filterMap_filter]
    apply List.filterMap_congr
    intro p hp
    rw [Function.comp_apply, parseAptLine_line (hps p hp)]
    by_cases hfits : p.name.length < 160
    · rw [if_pos hfits, if_pos (decide_eq_true hfits)]
      rfl
    · rw [if_neg hfits, if_neg (by rw [decide_eq_false hfits]; exact Bool.false_ne_true)]
  rw [collectApt, collect_unlines parseAptLine maxItems hplain, List.filterMap_append, hskip,
    List.nil_append, hkeep]

def bash : AptPackage where
  name := utf8 "bash"
  pocket := utf8 "jammy-security"
  version := utf8 "5.1-6"
  rest := utf8 "amd64"

theorem apt_listing_exact_bash :
    collectApt (some (unlines 10 ([utf8 "Listing..."] ++ [bash].map AptPackage.line))) 200 =
      [bash.patch] := by
  have hheading : forall line, line ∈ [utf8 "Listing..."] ->
      PlainLine line ∧ (47 : UInt8) ∉ line := by
    intro line hline
    rw [List.mem_singleton.mp hline]
    exact ⟨⟨by decide, by decide, by decide, by decide⟩, by decide⟩
  have hbash : forall p, p ∈ [bash] -> p.Plain := by
    intro p hp
    rw [List.mem_singleton.mp hp]
    exact
      { named := by decide
        versioned := by decide
        name := by decide
        pocket := by decide
        version := by decide
        line := ⟨by decide, by decide, by decide, by decide⟩ }
  exact apt_listing_exact [utf8 "Listing..."] [bash] hheading hbash 200

/-!
## The lines of dnf
-/

/-- Some white space: what stands between two words of a line. -/
structure Gap (s : List UInt8) : Prop where
  given : s ≠ []
  blank : forall b, b ∈ s -> isSpace b = true

/-- A text without white space. -/
structure Word (s : List UInt8) : Prop where
  given : s ≠ []
  solid : forall b, b ∈ s -> isSpace b = false

theorem Gap.of_all {s : List UInt8} (hs : s ≠ []) (hall : s.all isSpace = true) : Gap s :=
  ⟨hs, List.all_eq_true.mp hall⟩

theorem Word.of_all {s : List UInt8} (hs : s ≠ []) (hall : (s.all fun b => !isSpace b) = true) :
    Word s := by
  refine ⟨hs, fun b hb => ?_⟩
  have hsolid := List.all_eq_true.mp hall b hb
  rw [Bool.not_eq_true'] at hsolid
  exact hsolid

/-- The text does not go on with the word. -/
def Ends (s : List UInt8) : Prop :=
  forall b, b ∈ s.head? -> isSpace b = true

theorem Gap.ends {gap : List UInt8} (h : Gap gap) (s : List UInt8) : Ends (gap ++ s) := by
  intro b hb
  rw [List.head?_append_of_ne_nil gap h.given] at hb
  exact h.blank b (List.mem_of_mem_head? hb)

theorem dropWhile_blank {gap : List UInt8} (h : forall b, b ∈ gap -> isSpace b = true)
    {word : List UInt8} (hword : Word word) (rest : List UInt8) :
    (gap ++ (word ++ rest)).dropWhile isSpace = word ++ rest := by
  rw [List.dropWhile_append_of_pos h]
  apply dropWhile_of_head
  intro b hb
  rw [List.head?_append_of_ne_nil word hword.given] at hb
  exact hword.solid b (List.mem_of_mem_head? hb)

theorem takeWhile_word {word : List UInt8} (hword : Word word) {rest : List UInt8}
    (hrest : Ends rest) : ((word ++ rest).takeWhile fun b => !isSpace b) = word := by
  have hsolid : forall b, b ∈ word -> (!isSpace b) = true := by
    intro b hb
    rw [hword.solid b hb]
    rfl
  have hstop : (rest.takeWhile fun b => !isSpace b) = [] := by
    cases rest with
    | nil =>
        rfl
    | cons b rest =>
        rw [List.takeWhile_cons_of_neg]
        rw [hrest b rfl]
        exact Bool.false_ne_true
  rw [List.takeWhile_append_of_pos hsolid, hstop, List.append_nil]

/-- A word that the width admits is read whole. -/
theorem scanWord_word {width : Nat} {gap word rest : List UInt8}
    (hgap : forall b, b ∈ gap -> isSpace b = true) (hword : Word word)
    (hwidth : word.length ≤ width) (hrest : Ends rest) :
    scanWord width (gap ++ (word ++ rest)) = some (word, rest) := by
  rw [scanWord, dropWhile_blank hgap hword]
  simp only [takeWhile_word hword hrest, List.take_of_length_le hwidth, if_neg hword.given,
    List.drop_left]

/-- A longer one up to the width. -/
theorem scanWord_take (width : Nat) (hwidth : 0 < width) {gap word rest : List UInt8}
    (hgap : forall b, b ∈ gap -> isSpace b = true) (hword : Word word) (hrest : Ends rest) :
    exists s, scanWord width (gap ++ (word ++ rest)) = some (word.take width, s) := by
  have hne : word.take width ≠ [] := by
    intro hnil
    rcases List.take_eq_nil_iff.mp hnil with hzero | hempty
    · omega
    · exact hword.given hempty
  refine ⟨(word ++ rest).drop (word.take width).length, ?_⟩
  rw [scanWord, dropWhile_blank hgap hword]
  simp only [takeWhile_word hword hrest, if_neg hne]

/-- A package that can be upgraded, as dnf prints it: in three columns. -/
structure DnfPackage where
  nameArch : List UInt8
  version : List UInt8
  repo : List UInt8
  gaps : List UInt8 × List UInt8
  trail : List UInt8

namespace DnfPackage

def line (p : DnfPackage) : List UInt8 :=
  p.nameArch ++ (p.gaps.1 ++ (p.version ++ (p.gaps.2 ++ (p.repo ++ p.trail))))

/-- The patch that stands for it; `repo` has 64 bytes. -/
def patch (p : DnfPackage) : LeoPatch where
  id := p.nameArch
  title := patchTitle p.nameArch p.version
  severity := severityOf (p.repo.take 63)
  sizeBytes := 0

structure Plain (p : DnfPackage) : Prop where
  nameArch : Word p.nameArch
  nameFits : p.nameArch.length ≤ 159
  version : Word p.version
  versionFits : p.version.length ≤ 63
  dotted : (46 : UInt8) ∈ p.version ∨ (45 : UInt8) ∈ p.version
  repo : Word p.repo
  firstGap : Gap p.gaps.1
  secondGap : Gap p.gaps.2
  trail : Ends p.trail
  line : PlainLine p.line

end DnfPackage

theorem parseDnfLine_line {p : DnfPackage} (h : p.Plain) :
    (if p.line = [] then none else parseDnfLine p.line) = some p.patch := by
  have hne : p.line ≠ [] := fun hnil => h.nameArch.given (List.append_eq_nil_iff.mp hnil).left
  have hnil : forall b, b ∈ ([] : List UInt8) -> isSpace b = true := nofun
  have hfirst : scanWord 159 p.line =
      some (p.nameArch, p.gaps.1 ++ (p.version ++ (p.gaps.2 ++ (p.repo ++ p.trail)))) :=
    scanWord_word hnil h.nameArch h.nameFits (h.firstGap.ends _)
  have hsecond := scanWord_word h.firstGap.blank h.version h.versionFits
    (h.secondGap.ends (p.repo ++ p.trail))
  rcases scanWord_take 63 (by decide) h.secondGap.blank h.repo h.trail with
    ⟨s, hthird⟩
  have hdotted : (!p.version.contains 46 && !p.version.contains 45) = false := by
    rcases h.dotted with hdot | hdash
    · rw [List.contains_iff_mem.mpr hdot]
      rfl
    · rw [List.contains_iff_mem.mpr hdash, Bool.and_comm]
      rfl
  have hname : strncpy p.nameArch 160 = p.nameArch := List.take_of_length_le h.nameFits
  rw [if_neg hne, parseDnfLine, hfirst]
  simp only [hsecond, hthird, hdotted, Bool.false_eq_true, if_false, hname]
  rfl

/-- What is reported for a listing of dnf: each package under exactly its own name, in
their order, as many as there is room for. -/
theorem dnf_listing_exact (ps : List DnfPackage) (hps : forall p, p ∈ ps -> p.Plain)
    (maxItems : Nat) :
    collectDnf (some (unlines 10 (ps.map DnfPackage.line))) maxItems =
      (ps.map DnfPackage.patch).take maxItems := by
  have hplain : forall line, line ∈ ps.map DnfPackage.line -> PlainLine line := by
    intro line hline
    rcases List.mem_map.mp hline with ⟨p, hp, rfl⟩
    exact (hps p hp).line
  have hkeep : ((ps.map DnfPackage.line).filterMap fun line =>
      if line = [] then none else parseDnfLine line) = ps.map DnfPackage.patch := by
    rw [List.filterMap_map, ← List.filterMap_eq_map]
    apply List.filterMap_congr
    intro p hp
    exact parseDnfLine_line (hps p hp)
  rw [collectDnf, collect_unlines _ maxItems hplain, hkeep]

def bashArch : DnfPackage where
  nameArch := utf8 "bash.x86_64"
  version := utf8 "5.1.16-1.fc38"
  repo := utf8 "updates"
  gaps := (utf8 "  ", utf8 " ")
  trail := []

theorem dnf_listing_exact_bashArch :
    collectDnf (some (unlines 10 ([bashArch].map DnfPackage.line))) 200 = [bashArch.patch] := by
  have hbash : forall p, p ∈ [bashArch] -> p.Plain := by
    intro p hp
    rw [List.mem_singleton.mp hp]
    exact
      { nameArch := Word.of_all (by decide) (by decide)
        nameFits := by decide
        version := Word.of_all (by decide) (by decide)
        versionFits := by decide
        dotted := by decide
        repo := Word.of_all (by decide) (by decide)
        firstGap := Gap.of_all (by decide) (by decide)
        secondGap := Gap.of_all (by decide) (by decide)
        trail := nofun
        line := ⟨by decide, by decide, by decide, by decide⟩ }
  exact dnf_listing_exact [bashArch] hbash 200

/-!
## The lines of dpkg
-/

structure DpkgPackage where
  package : List UInt8
  version : List UInt8
  maintainer : List UInt8

namespace DpkgPackage

def line (p : DpkgPackage) : List UInt8 :=
  p.package ++ 9 :: (p.version ++ 9 :: p.maintainer)

def item (p : DpkgPackage) : LeoSwItem where
  name := strncpy p.package 128
  version := strncpy p.version 64
  publisher := strncpy p.maintainer 128
  installPath := []

structure Plain (p : DpkgPackage) : Prop where
  package : (9 : UInt8) ∉ p.package
  version : (9 : UInt8) ∉ p.version
  line : PlainLine p.line

end DpkgPackage

/-- The software inventory of a listing of dpkg: an item for each package, in their order,
as many as there is room for, with every column in its own field. -/
theorem dpkg_listing_exact (ps : List DpkgPackage) (hps : forall p, p ∈ ps -> p.Plain)
    (maxItems : Int) (hmax : 0 < maxItems) :
    leoInventoryCollectSw (some (unlines 10 (ps.map DpkgPackage.line))) maxItems =
      some ((ps.map DpkgPackage.item).take maxItems.toNat) := by
  have hplain : forall line, line ∈ ps.map DpkgPackage.line -> PlainLine line := by
    intro line hline
    rcases List.mem_map.mp hline with ⟨p, hp, rfl⟩
    exact (hps p hp).line
  have hkeep : (ps.map DpkgPackage.line).filterMap parseDpkgLine =
      ps.map DpkgPackage.item := by
    rw [List.filterMap_map, ← List.filterMap_eq_map]
    apply List.filterMap_congr
    intro p hp
    rw [Function.comp_apply, parseDpkgLine, DpkgPackage.line,
      cut_separator (hps p hp).package]
    simp only [cut_separator (hps p hp).version]
    rfl
  rw [leoInventoryCollectSw, if_neg (Int.not_le.mpr hmax)]
  simp only [collect_unlines _ _ hplain, hkeep]

def coreutils : DpkgPackage where
  package := utf8 "coreutils"
  version := utf8 "8.32"
  maintainer := utf8 "Ubuntu Developers"

theorem dpkg_listing_exact_coreutils :
    leoInventoryCollectSw (some (unlines 10 ([coreutils].map DpkgPackage.line))) 150 =
      some [coreutils.item] := by
  have hplain : forall p, p ∈ [coreutils] -> p.Plain := by
    intro p hp
    rw [List.mem_singleton.mp hp]
    exact
      { package := by decide
        version := by decide
        line := ⟨by decide, by decide, by decide, by decide⟩ }
  exact dpkg_listing_exact [coreutils] hplain 150 (by decide)

/-!
## Any output
-/

/-- What a reported patch is called: not empty, shorter than its field, without a NUL, and
the start of a line of the output. -/
structure NamedBy (ls : List (List UInt8)) (p : LeoPatch) : Prop where
  given : p.id ≠ []
  fits : p.id.length < patchIdMaxLen
  noNul : (0 : UInt8) ∉ p.id
  start : exists line, line ∈ ls ∧ p.id <:+: chomp line

theorem chomp_noNul (line : List UInt8) : (0 : UInt8) ∉ chomp line := by
  intro hmem
  have hfront := List.rdropWhile_prefix (fun b : UInt8 => b = 10 || b = 13)
    (l := line.takeWhile fun b => b ≠ 0)
  have hnul := List.mem_takeWhile_imp (hfront.subset hmem)
  exact absurd rfl (of_decide_eq_true hnul)

theorem parseAptLine_some {line : List UInt8} {p : LeoPatch}
    (h : parseAptLine line = some p) :
    p.id ≠ [] ∧ p.id.length < patchIdMaxLen ∧ p.id <:+: line := by
  have hline := cut_append 47 line
  rw [parseAptLine] at h
  split at h
  · cases h
  · rename_i name afterSlash hcut
    rw [hcut] at hline
    split at h
    · cases h
    · rename_i hname
      split at h
      · cases h
      · split at h
        · cases h
        · split at h
          · cases h
          · rename_i hchecks
            cases h
            rw [Bool.or_eq_true, Bool.or_eq_true, not_or, not_or, decide_eq_true_eq,
              decide_eq_true_eq] at hchecks
            have hfits : name.length < patchIdMaxLen := Nat.lt_of_not_le hchecks.left.right
            exact ⟨hname, hfits, ⟨[], tailText 47 (some afterSlash), hline⟩⟩

theorem scanWord_some {width : Nat} {s word rest : List UInt8}
    (h : scanWord width s = some (word, rest)) :
    word ≠ [] ∧ word.length ≤ width ∧ word <:+: s := by
  rw [scanWord] at h
  split at h
  · cases h
  · rename_i hne
    cases h
    have htake := List.take_prefix width ((s.dropWhile isSpace).takeWhile fun b => !isSpace b)
    have hword := htake.trans (List.takeWhile_prefix fun b => !isSpace b)
    exact ⟨hne, List.length_take_le _ _,
      hword.isInfix.trans (List.dropWhile_suffix isSpace).isInfix⟩

theorem parseDnfLine_some {line : List UInt8} {p : LeoPatch}
    (h : parseDnfLine line = some p) :
    p.id ≠ [] ∧ p.id.length < patchIdMaxLen ∧ p.id <:+: line := by
  rw [parseDnfLine] at h
  split at h
  · cases h
  · rename_i nameArch s hname
    split at h
    · cases h
    · split at h
      · cases h
      · split at h
        · cases h
        · cases h
          rcases scanWord_some hname with ⟨hne, hlength, hpiece⟩
          have hid : strncpy nameArch 160 = nameArch := List.take_of_length_le hlength
          have hfits : nameArch.length < patchIdMaxLen := Nat.lt_succ_of_le hlength
          rw [hid]
          exact ⟨hne, hfits, hpiece⟩

theorem collect_named {parse : List UInt8 -> Option LeoPatch}
    (h : forall line p, parse line = some p ->
      p.id ≠ [] ∧ p.id.length < patchIdMaxLen ∧ p.id <:+: line)
    (max : Nat) (ls : List (List UInt8)) :
    (collect parse max ls).length ≤ max ∧
      forall p, p ∈ collect parse max ls -> NamedBy ls p := by
  rw [collect_eq]
  refine ⟨List.length_take_le _ _, fun p hp => ?_⟩
  rcases List.mem_filterMap.mp (List.mem_of_mem_take hp) with ⟨line, hline, hparse⟩
  rcases h _ p hparse with ⟨hne, hfits, hpiece⟩
  exact ⟨hne, hfits, fun hnul => chomp_noNul line (hpiece.subset hnul), line, hline, hpiece⟩

/-- What the command of the package manager prints. -/
def PackageManager.printed : PackageManager -> List UInt8
  | PackageManager.apt output => output.getD []
  | PackageManager.dnf output => output.getD []
  | PackageManager.none => []

theorem patchesCollect_named {manager : PackageManager} {maxItems : Int} {ps : List LeoPatch}
    (h : leoPatchesCollect manager maxItems = some ps) :
    (ps.length : Int) ≤ maxItems ∧
      forall p, p ∈ ps -> NamedBy (outputLines manager.printed) p := by
  unfold leoPatchesCollect at h
  split at h
  · cases h
  · rename_i hmax
    have hempty : ((List.length ([] : List LeoPatch) : Nat) : Int) ≤ maxItems := by
      rw [List.length_nil]
      omega
    have hbound : forall ps : List LeoPatch, ps.length ≤ maxItems.toNat ->
        (ps.length : Int) ≤ maxItems := by
      intro ps hps
      omega
    cases manager with
    | none =>
        cases h
        exact ⟨hempty, nofun⟩
    | apt output =>
        cases h
        cases output with
        | none =>
            exact ⟨hempty, nofun⟩
        | some text =>
            have hnamed := collect_named (fun _ _ => parseAptLine_some) maxItems.toNat
              (outputLines text)
            exact ⟨hbound _ hnamed.left, hnamed.right⟩
    | dnf output =>
        cases h
        cases output with
        | none =>
            exact ⟨hempty, nofun⟩
        | some text =>
            have hparse : forall line p,
                (if line = [] then none else parseDnfLine line) = some p ->
                  p.id ≠ [] ∧ p.id.length < patchIdMaxLen ∧ p.id <:+: line := by
              intro line p hp
              split at hp
              · cases hp
              · exact parseDnfLine_some hp
            have hnamed := collect_named hparse maxItems.toNat (outputLines text)
            exact ⟨hbound _ hnamed.left, hnamed.right⟩

theorem NamedBy.valid {ls : List (List UInt8)} {p : LeoPatch} (h : NamedBy ls p) :
    patchIdValid p.id = p.id.all isNameChar := by
  have hne : p.id.length ≠ 0 := fun hzero => h.given (List.length_eq_zero_iff.mp hzero)
  rw [patchIdValid, decide_eq_false hne, decide_eq_false (Nat.not_le_of_lt h.fits)]
  rfl

end Agent
end LeoOne
