import LeoOne.Agent.PackageLists
import LeoOne.Agent.Patches

/-!
# The commands that install patches

The argument vectors that `patches_linux.c` gives to `leo_exec_argv`: no shell reads them,
but the package manager takes an argument that begins with a dash for an option, unless a
`--` stands before it.
-/

namespace LeoOne
namespace Agent

open Foundation
open Wire

/-!
## Argument vectors
-/

/-- `update_argv` of `_install_apt`. -/
def aptUpdateArgv : List (List UInt8) :=
  [utf8 "apt-get", utf8 "update", utf8 "-qq"]

/-- `install_argv` of `_install_apt`. -/
def aptInstallArgv (ids : List (List UInt8)) : List (List UInt8) :=
  [utf8 "apt-get", utf8 "install", utf8 "-y", utf8 "--only-upgrade", utf8 "--"] ++
    installOperands ids

/-- `argv` of `_install_dnf`. -/
def dnfUpdateArgv (ids : List (List UInt8)) : List (List UInt8) :=
  [utf8 "dnf", utf8 "update", utf8 "-y"] ++ installOperands ids

/-- `_schedule_reboot`: the second command only if the first one fails. -/
def rebootArgvs (shutdown : ExecOutcome) : List (List (List UInt8)) :=
  [utf8 "shutdown", utf8 "-r", utf8 "+1"] ::
    if shutdown.succeeded then [] else [[utf8 "systemctl", utf8 "reboot"]]

/-- The commands that `leo_patches_install` runs, in their order. -/
def patchCommands (host : PatchHost) (ids : List (List UInt8)) (rebootAfter : Bool)
    (shutdown : ExecOutcome) : List (List (List UInt8)) :=
  let reboot := if (leoPatchesInstall host ids rebootAfter).reboots then rebootArgvs shutdown
    else []
  match host with
  | PatchHost.apt update _ =>
      aptUpdateArgv ::
        if update.succeeded then aptInstallArgv ids :: reboot else reboot
  | PatchHost.dnf _ => dnfUpdateArgv ids :: reboot
  | PatchHost.unsupported => []
  | PatchHost.windows _ => []

/-!
## How a package manager reads its arguments
-/

/-- A dash and something after it. -/
def isOption (arg : List UInt8) : Bool :=
  match arg with
  | 45 :: _ :: _ => true
  | _ => false

/-- The end of the options. -/
def endOfOptions : List UInt8 :=
  utf8 "--"

/-- The options that a program finds among its arguments. -/
def optionsOf (args : List (List UInt8)) : List (List UInt8) :=
  (args.takeWhile fun arg => arg ≠ endOfOptions).filter isOption

/-- The other arguments. -/
def operandsOf (args : List (List UInt8)) : List (List UInt8) :=
  ((args.takeWhile fun arg => arg ≠ endOfOptions).filter fun arg => !isOption arg) ++
    (args.dropWhile fun arg => arg ≠ endOfOptions).drop 1

theorem isOption_endOfOptions : isOption endOfOptions = true := by
  decide

/-- Arguments are operands, all of them, if none has the form of an option; and only
then. -/
theorem operandsOf_eq_self_iff (args : List (List UInt8)) :
    operandsOf args = args <-> forall arg, arg ∈ args -> isOption arg = false := by
  constructor
  · intro h
    have hparts := List.takeWhile_append_dropWhile (p := fun arg => decide (arg ≠ endOfOptions))
      (l := args)
    have hlength := congrArg List.length h
    rw [← congrArg List.length hparts, operandsOf, List.length_append, List.length_append,
      List.length_drop] at hlength
    have hfilter := List.length_filter_le (fun arg => !isOption arg)
      (args.takeWhile fun arg => arg ≠ endOfOptions)
    have hend : (args.dropWhile fun arg => arg ≠ endOfOptions).length = 0 := by
      omega
    have hall : ((args.takeWhile fun arg => arg ≠ endOfOptions).filter
        fun arg => !isOption arg).length =
          (args.takeWhile fun arg => arg ≠ endOfOptions).length := by
      omega
    rw [List.length_eq_zero_iff.mp hend, List.append_nil] at hparts
    rw [hparts, List.length_filter_eq_length_iff] at hall
    intro arg harg
    have hnot := hall arg harg
    rwa [Bool.not_eq_true'] at hnot
  · intro h
    have hne : forall arg, arg ∈ args -> decide (arg ≠ endOfOptions) = true := by
      intro arg harg
      apply decide_eq_true
      rintro rfl
      have := h endOfOptions harg
      rw [isOption_endOfOptions] at this
      cases this
    have htake : (args.takeWhile fun arg => decide (arg ≠ endOfOptions)) = args :=
      List.takeWhile_eq_self_iff.mpr hne
    have hdrop : (args.dropWhile fun arg => decide (arg ≠ endOfOptions)) = [] :=
      List.dropWhile_eq_nil_iff.mpr hne
    have hfilter : (args.filter fun arg => !isOption arg) = args := by
      rw [List.filter_eq_self]
      intro arg harg
      rw [h arg harg]
      rfl
    rw [operandsOf, htake, hdrop, hfilter]
    exact List.append_nil _

/-- An argument in front is an operand or an option by itself. -/
theorem operandsOf_cons {arg : List UInt8} (h : arg ≠ endOfOptions)
    (args : List (List UInt8)) :
    operandsOf (arg :: args) =
      if isOption arg then operandsOf args else arg :: operandsOf args := by
  have htake := List.takeWhile_cons_of_pos (p := fun a => decide (a ≠ endOfOptions))
    (l := args) (decide_eq_true h)
  have hdrop := List.dropWhile_cons_of_pos (p := fun a => decide (a ≠ endOfOptions))
    (l := args) (decide_eq_true h)
  rw [operandsOf, operandsOf, htake, hdrop]
  cases hoption : isOption arg with
  | true =>
      rw [if_pos rfl, List.filter_cons_of_neg (by rw [hoption]; exact Bool.false_ne_true)]
  | false =>
      rw [if_neg Bool.false_ne_true, List.filter_cons_of_pos (by rw [hoption]; rfl),
        List.cons_append]

/-!
## What is run for an INSTALL_PATCHES command
-/

/-- An accepted command hands over every identifier that it holds. -/
theorem installOperands_accepted {body : Option Json} {ids : List (List UInt8)}
    {rebootAfter : Bool} {timeoutSecs : Int}
    (h : dispatchInstallPatches body =
      Except.ok (Order.installPatches ids rebootAfter timeoutSecs)) :
    installOperands ids = ids := by
  have hnames : (patchNames body).length ≤ patchInstallMaxCount := by
    rw [patchNames]
    split
    · rw [List.length_map]
      exact List.length_take_le _ _
    · exact Nat.zero_le _
  by_cases hempty : (patchNames body).length = 0
  · have hrefused : exists text, dispatchInstallPatches body = Except.error text :=
      ⟨_, if_pos hempty⟩
    rcases hrefused with ⟨text, hrefused⟩
    rw [hrefused] at h
    cases h
  by_cases hinvalid : ((patchNames body).any fun id => !patchIdValid id) = true
  · have hrefused : exists text, dispatchInstallPatches body = Except.error text :=
      ⟨_, (if_neg hempty).trans (if_pos hinvalid)⟩
    rcases hrefused with ⟨text, hrefused⟩
    rw [hrefused] at h
    cases h
  · have haccepted : exists reboot timeout, dispatchInstallPatches body =
        Except.ok (Order.installPatches
          ((patchNames body).map fun id => strncpy id patchIdMaxLen) reboot timeout) :=
      ⟨_, _, (if_neg hempty).trans (if_neg hinvalid)⟩
    rcases haccepted with ⟨reboot, timeout, haccepted⟩
    rw [haccepted] at h
    cases h
    apply List.take_of_length_le
    rw [List.length_map]
    exact hnames

/-- The options that the agent itself gives to `apt-get` and `shutdown`. -/
def ownOptions : List (List UInt8) :=
  [utf8 "-qq", utf8 "-y", utf8 "--only-upgrade", utf8 "-r"]

theorem reboot_options (shutdown : ExecOutcome) {argv : List (List UInt8)}
    (h : argv ∈ rebootArgvs shutdown) : optionsOf argv.tail ⊆ ownOptions := by
  have hargv : argv = [utf8 "shutdown", utf8 "-r", utf8 "+1"] ∨
      argv = [utf8 "systemctl", utf8 "reboot"] := by
    rw [rebootArgvs] at h
    rcases List.mem_cons.mp h with hfirst | hsecond
    · exact Or.inl hfirst
    · split at hsecond
      · cases hsecond
      · exact Or.inr (List.mem_singleton.mp hsecond)
  rcases hargv with rfl | rfl <;> decide

theorem apt_options (update install : ExecOutcome) (ids : List (List UInt8))
    (rebootAfter : Bool) (shutdown : ExecOutcome) {argv : List (List UInt8)}
    (h : argv ∈ patchCommands (PatchHost.apt update install) ids rebootAfter shutdown) :
    optionsOf argv.tail ⊆ ownOptions := by
  have hreboot : forall reboot : Bool,
      argv ∈ (if reboot then rebootArgvs shutdown else []) ->
        optionsOf argv.tail ⊆ ownOptions := by
    intro reboot hmem
    cases reboot with
    | true =>
        exact reboot_options shutdown hmem
    | false =>
        cases hmem
  have hinstall : optionsOf (aptInstallArgv ids).tail = [utf8 "-y", utf8 "--only-upgrade"] := rfl
  rw [patchCommands] at h
  rcases List.mem_cons.mp h with rfl | hrest
  · decide
  · split at hrest
    · rcases List.mem_cons.mp hrest with rfl | hlast
      · rw [hinstall]
        decide
      · exact hreboot _ hlast
    · exact hreboot _ hrest

/-- Whatever an accepted INSTALL_PATCHES command asks for, no program that is run on a
machine with apt finds an option that the agent has not written itself, and `apt-get` takes
every identifier for the name of a package.  `dnf` does so if and only if no identifier
begins with a dash: there is no `--` among its arguments. -/
theorem patch_ids_operands (body : Option Json) (ids : List (List UInt8))
    (rebootAfter : Bool) (timeoutSecs : Int)
    (h : dispatchInstallPatches body =
      Except.ok (Order.installPatches ids rebootAfter timeoutSecs)) :
    (forall update install shutdown argv,
      argv ∈ patchCommands (PatchHost.apt update install) ids rebootAfter shutdown ->
        optionsOf argv.tail ⊆ ownOptions) ∧
      operandsOf (aptInstallArgv ids).tail = utf8 "install" :: ids ∧
      (operandsOf (dnfUpdateArgv ids).tail = utf8 "update" :: ids <->
        forall id, id ∈ ids -> isOption id = false) := by
  have hids := installOperands_accepted h
  refine ⟨fun update install shutdown argv hargv =>
    apt_options update install ids rebootAfter shutdown hargv, ?_, ?_⟩
  · rw [aptInstallArgv, hids]
    rfl
  · have htail : (dnfUpdateArgv ids).tail = utf8 "update" :: utf8 "-y" :: ids := by
      rw [dnfUpdateArgv, hids]
      rfl
    have hupdate : utf8 "update" ≠ endOfOptions := by
      decide
    have hyes : utf8 "-y" ≠ endOfOptions := by
      decide
    rw [htail, operandsOf_cons hupdate, if_neg (by decide), operandsOf_cons hyes,
      if_pos (by decide), List.cons_inj_right]
    exact operandsOf_eq_self_iff ids

/-- `{"patch_ids":["--nogpgcheck"]}` -/
def noGpgCheck : Json :=
  Json.obj [("patch_ids", Json.arr [Json.str "--nogpgcheck"])]

theorem patch_ids_operands_noGpgCheck :
    operandsOf (dnfUpdateArgv [utf8 "--nogpgcheck"]).tail ≠
      utf8 "update" :: [utf8 "--nogpgcheck"] := by
  have haccepted : dispatchInstallPatches (some noGpgCheck) =
      Except.ok (Order.installPatches [utf8 "--nogpgcheck"] false 300) := by
    rfl
  have hiff := (patch_ids_operands _ _ _ _ haccepted).right.right
  intro hoperands
  have hplain := hiff.mp hoperands (utf8 "--nogpgcheck") List.mem_cons_self
  revert hplain
  decide

end Agent
end LeoOne
