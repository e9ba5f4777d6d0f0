import LeoOne.Agent.PatchCommands
import LeoOne.Backend.PatchAgreement

/-!
# Listed patches

The way of a patch through the system: an agent reports it under the name that its package
manager prints, the backend asks for it under that name, and the agent hands the name back
to the package manager.
-/

namespace LeoOne
namespace Backend

open Foundation
open Wire

theorem cString_plain {s : String} (h : (0 : UInt8) ∉ utf8 s) : Agent.cString s = utf8 s := by
  rw [Agent.cString, List.takeWhile_eq_self_iff]
  intro b hb
  apply decide_eq_true
  rintro rfl
  exact h hb

/-- Names that fit their slots are held whole. -/
theorem patchSlots_plain {texts : List String}
    (hnames : forall t, t ∈ texts ->
      (0 : UInt8) ∉ utf8 t ∧ (utf8 t).length < Agent.patchIdMaxLen)
    (hcount : texts.length ≤ Agent.patchInstallMaxCount) :
    patchSlots texts = texts.map utf8 := by
  rw [patchSlots, List.take_of_length_le hcount]
  apply List.map_congr_left
  intro t ht
  rw [cString_plain (hnames t ht).left]
  exact List.take_of_length_le (Nat.le_sub_one_of_lt (hnames t ht).right)

/-- Patches that an agent has reported, and the backend asks it to install by the names they
were reported under, are installed under these names: the agent refuses the command for
nothing but a character that it does not admit, and gives `apt-get` exactly the list. -/
theorem listed_patches_installed (manager : Agent.PackageManager) (maxItems : Int)
    (ps : List Agent.LeoPatch) (hcollect : Agent.leoPatchesCollect manager maxItems = some ps)
    (texts : List String) (rebootAfter : Bool) (payload : RawMessage)
    (hpayload : installPatchesPayload texts rebootAfter = some payload)
    (htexts : forall t, t ∈ texts -> exists p, p ∈ ps ∧ utf8 t = p.id)
    (hcount : texts.length ≤ Agent.patchInstallMaxCount) :
    Agent.dispatchInstallPatches (some payload.value) =
        (if texts.all fun t => (utf8 t).all Agent.isNameChar then
          Except.ok (Agent.Order.installPatches (texts.map utf8) rebootAfter
            Agent.execDefaultTimeoutSec)
        else Except.error "Requête invalide : identifiant de patch non autorisé") ∧
      Agent.operandsOf (Agent.aptInstallArgv (texts.map utf8)).tail =
        utf8 "install" :: texts.map utf8 := by
  have hnamed : forall t, t ∈ texts -> exists p : Agent.LeoPatch,
      Agent.NamedBy (Agent.outputLines manager.printed) p ∧ utf8 t = p.id := by
    intro t ht
    rcases htexts t ht with ⟨p, hp, hid⟩
    exact ⟨p, (Agent.patchesCollect_named hcollect).right p hp, hid⟩
  have hfits : forall t, t ∈ texts ->
      (0 : UInt8) ∉ utf8 t ∧ (utf8 t).length < Agent.patchIdMaxLen := by
    intro t ht
    rcases hnamed t ht with ⟨p, hp, hid⟩
    rw [hid]
    exact ⟨hp.noNul, hp.fits⟩
  have hvalid : forall t, t ∈ texts ->
      Agent.patchIdValid (utf8 t) = (utf8 t).all Agent.isNameChar := by
    intro t ht
    rcases hnamed t ht with ⟨p, hp, hid⟩
    rw [hid]
    exact hp.valid
  have hnames : Agent.patchNames (some payload.value) = texts.map utf8 :=
    (patchNames_payload hpayload).trans (patchSlots_plain hfits hcount)
  have hcopies : (texts.map utf8).map (fun id => Agent.strncpy id Agent.patchIdMaxLen) =
      texts.map utf8 := by
    rw [List.map_map]
    apply List.map_congr_left
    intro t ht
    exact List.take_of_length_le (Nat.le_sub_one_of_lt (hfits t ht).right)
  have hcount' : Agent.installOperands (texts.map utf8) = texts.map utf8 :=
    List.take_of_length_le (by rw [List.length_map]; exact hcount)
  have hsome : ¬ (texts.map utf8).length = 0 := by
    intro hzero
    rw [List.length_map] at hzero
    rw [installPatchesPayload, if_pos hzero] at hpayload
    cases hpayload
  have hrefuses : ((texts.map utf8).any fun id => !Agent.patchIdValid id) =
      !texts.all fun t => (utf8 t).all Agent.isNameChar := by
    rw [List.any_map, List.not_all_eq_any_not, Bool.eq_iff_iff, List.any_eq_true,
      List.any_eq_true]
    constructor
    · rintro ⟨t, ht, hbad⟩
      rw [Function.comp_apply, hvalid t ht] at hbad
      exact ⟨t, ht, hbad⟩
    · rintro ⟨t, ht, hbad⟩
      refine ⟨t, ht, ?_⟩
      rw [Function.comp_apply, hvalid t ht]
      exact hbad
  constructor
  · rw [Agent.dispatchInstallPatches]
    simp only [hnames, if_neg hsome, hrefuses, hcopies]
    rw [installPatchesPayload_value hpayload]
    cases texts.all fun t => (utf8 t).all Agent.isNameChar with
    | true =>
        rfl
    | false =>
        rfl
  · rw [Agent.aptInstallArgv, hcount']
    rfl

theorem listed_patches_installed_bash :
    Agent.dispatchInstallPatches
        (some (Json.obj
          [("patch_ids", Json.arr [Json.str "bash"]), ("reboot_after", Json.bool true)])) =
      Except.ok (Agent.Order.installPatches [utf8 "bash"] true
        Agent.execDefaultTimeoutSec) := by
  have hcollect : Agent.leoPatchesCollect
      (Agent.PackageManager.apt (some (utf8 "bash/jammy 5.1 amd64\n"))) 200 =
        some [{ id := utf8 "bash", title := utf8 "bash → 5.1"
                severity := Agent.LeoPatchSeverity.important, sizeBytes := 0 }] := by
    rfl
  have htexts : forall t, t ∈ ["bash"] -> exists p : Agent.LeoPatch,
      p ∈ [{ id := utf8 "bash", title := utf8 "bash → 5.1"
             severity := Agent.LeoPatchSeverity.important, sizeBytes := 0 }] ∧
        utf8 t = p.id := by
    intro t ht
    rw [List.mem_singleton.mp ht]
    exact ⟨_, List.mem_singleton_self _, rfl⟩
  exact (listed_patches_installed _ 200 _ hcollect ["bash"] true _ rfl htexts (by decide)).left

end Backend
end LeoOne
