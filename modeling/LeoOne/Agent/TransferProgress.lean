import LeoOne.Agent.FileTransfer

/-!
# The progress of a file transfer

`_report_progress` divides the bytes received so far by the total, which is the size in
the command or, without one, the Content-Length of the response.  Neither has anything to
do with the bytes that arrive, and the quotient is reported as it is.
-/

namespace LeoOne
namespace Agent

open Wire

/-!
## What the callbacks bring
-/

/-- The Content-Length that a callback brings, or 0. -/
def DlCallback.contentLength : DlCallback -> UInt64
  | establishedClientHttp _ length => (length.map strtoull).getD 0
  | _ => 0

/-- The bytes received before a failure, and the total they are compared with: the size in
the command, or else the first Content-Length that is not 0. -/
structure Tally where
  received : Nat
  total : UInt64
  failed : Bool

namespace Tally

def start (r : DlRequest) : Tally where
  received := 0
  total := r.expectedSize
  failed := false

def callback (t : Tally) (c : DlCallback) : Tally where
  received := if t.failed || c.fails then t.received else t.received + c.data.length
  total := if t.total = 0 then c.contentLength else t.total
  failed := t.failed || c.fails

/-- An error of `lws_service`, or the deadline. -/
def broken (t : Tally) (b : Bool) : Tally :=
  { t with failed := t.failed || b }

def percent (t : Tally) : Nat :=
  t.received * 100 / t.total.toNat

/-- The product fits into 64 bits, and not more than the total is received, up to the
rounding of the percentage. -/
def Sane (t : Tally) : Prop :=
  t.received * 100 < 2 ^ 64 ∧ (t.total = 0 ∨ t.received * 100 < 101 * t.total.toNat)

/-- The numbers of a transfer only grow, and a total stays. -/
structure Before (t t' : Tally) : Prop where
  received : t.received ≤ t'.received
  total : t.total = 0 ∨ t'.total = t.total

theorem before_callback (t : Tally) (c : DlCallback) : Before t (t.callback c) := by
  constructor
  · simp only [callback]
    split
    · exact Nat.le_refl _
    · exact Nat.le_add_right _ _
  · by_cases htotal : t.total = 0
    · exact Or.inl htotal
    · exact Or.inr (if_neg htotal)

theorem callback_total {t : Tally} {c : DlCallback} (h : c.contentLength = 0) :
    (t.callback c).total = t.total := by
  by_cases htotal : t.total = 0
  · rw [callback, if_pos htotal, h, htotal]
  · exact if_neg htotal

theorem callback_received {t : Tally} {c : DlCallback}
    (h : t.failed = true ∨ c.fails = true ∨ c.data = []) :
    (t.callback c).received = t.received := by
  by_cases hfails : (t.failed || c.fails) = true
  · exact if_pos hfails
  · rw [Bool.or_eq_true, not_or] at hfails
    rcases h with hfailed | hfailed | hempty
    · exact absurd hfailed hfails.left
    · exact absurd hfailed hfails.right
    · simp only [callback, hempty, List.length_nil, Nat.add_zero, ite_self]

theorem percent_of_zero {t : Tally} (h : t.total = 0) : t.percent = 0 := by
  rw [percent, h]
  exact Nat.div_zero _

theorem Before.percent {t t' : Tally} (h : Before t t') : t.percent ≤ t'.percent := by
  rcases h.total with hzero | hsame
  · rw [percent_of_zero hzero]
    exact Nat.zero_le _
  · rw [Tally.percent, Tally.percent, hsame]
    exact Nat.div_le_div_right (Nat.mul_le_mul_right 100 h.received)

theorem Before.sane {t t' : Tally} (h : Before t t') (hsane : t'.Sane) : t.Sane := by
  have hle := Nat.mul_le_mul_right 100 h.received
  refine ⟨Nat.lt_of_le_of_lt hle hsane.left, ?_⟩
  rcases h.total with hzero | hsame
  · exact Or.inl hzero
  · rcases hsane.right with hzero | hless
    · exact Or.inl (hsame.symm.trans hzero)
    · rw [hsame] at hless
      exact Or.inr (Nat.lt_of_le_of_lt hle hless)

theorem percent_le_iff {t : Tally} :
    t.percent ≤ 100 <-> t.total = 0 ∨ t.received * 100 < 101 * t.total.toNat := by
  by_cases hzero : t.total = 0
  · rw [percent_of_zero hzero]
    exact ⟨fun _ => Or.inl hzero, fun _ => Nat.zero_le _⟩
  · have hpos : 0 < t.total.toNat :=
      Nat.pos_of_ne_zero fun h => hzero (UInt64.toNat_inj.mp h)
    rw [← Nat.lt_succ_iff, percent, Nat.div_lt_iff_lt_mul hpos]
    exact ⟨Or.inr, fun h => h.resolve_left hzero⟩

theorem sane_of_nothing {t : Tally} (h : t.received = 0) : t.Sane := by
  have hpercent : t.percent = 0 := by
    rw [percent, h, Nat.zero_mul, Nat.zero_div]
  constructor
  · rw [h]
    decide
  · apply percent_le_iff.mp
    rw [hpercent]
    exact Nat.zero_le _

/-- All of the total is received if and only if the percentage is 100, or more. -/
theorem le_percent_iff {t : Tally} :
    100 ≤ t.percent <-> t.total ≠ 0 ∧ t.total.toNat ≤ t.received := by
  by_cases hzero : t.total = 0
  · rw [percent_of_zero hzero]
    exact ⟨fun h => absurd h (by decide), fun h => absurd hzero h.left⟩
  · have hpos : 0 < t.total.toNat :=
      Nat.pos_of_ne_zero fun h => hzero (UInt64.toNat_inj.mp h)
    rw [percent, Nat.le_div_iff_mul_le hpos]
    constructor
    · intro h
      exact ⟨hzero, by omega⟩
    · rintro ⟨_, h⟩
      omega

end Tally

/-!
## The reports of a transfer that goes on
-/

/-- Reports of a transfer that has not ended, in their order and up to a bound. -/
structure Ascending (rs : List LeoFileTransferProgress) (bound : Int) : Prop where
  range : forall r, r ∈ rs -> 0 ≤ r.percent.toInt ∧ r.percent.toInt ≤ bound
  ordered : rs.Pairwise fun a b => a.percent.toInt ≤ b.percent.toInt
  underway : forall r, r ∈ rs -> r.status ≠ LeoFileTransferStatus.completed

theorem ascending_nil (bound : Int) : Ascending [] bound := by
  refine ⟨?_, List.Pairwise.nil, ?_⟩
  · intro r hr
    cases hr
  · intro r hr
    cases hr

theorem Ascending.mono {rs : List LeoFileTransferProgress} {b b' : Int}
    (h : Ascending rs b) (hle : b ≤ b') : Ascending rs b' :=
  ⟨fun r hr => ⟨(h.range r hr).left, (h.range r hr).right.trans hle⟩, h.ordered, h.underway⟩

theorem Ascending.snoc {rs : List LeoFileTransferProgress} {p : LeoFileTransferProgress}
    (h : Ascending rs p.percent.toInt) (hpos : 0 ≤ p.percent.toInt)
    (hstatus : p.status ≠ LeoFileTransferStatus.completed) :
    Ascending (rs ++ [p]) p.percent.toInt := by
  refine ⟨?_, ?_, ?_⟩
  · intro r hr
    rcases List.mem_append.mp hr with hold | hnew
    · exact h.range r hold
    · rw [List.mem_singleton.mp hnew]
      exact ⟨hpos, le_refl _⟩
  · rw [List.pairwise_append]
    refine ⟨h.ordered, List.pairwise_singleton _ _, ?_⟩
    intro r hr q hq
    rw [List.mem_singleton.mp hq]
    exact (h.range r hr).right
  · intro r hr
    rcases List.mem_append.mp hr with hold | hnew
    · exact h.underway r hold
    · rw [List.mem_singleton.mp hnew]
      exact hstatus

/-- The context of a transfer and what its callbacks have brought. -/
structure Tallied (dl : DlCtx) (t : Tally) : Prop where
  failed : dl.failed = t.failed
  received : dl.bytesReceived = UInt64.ofNat t.received
  total : dl.bytesTotal = t.total
  reports : t.Sane -> Ascending dl.reports t.percent

/-- Below 2^57 bytes the product does not wrap. -/
theorem received_mul_lt {n : Nat} (h : n < 2 ^ 57) : n * 100 < 2 ^ 64 :=
  calc
    n * 100 < 2 ^ 57 * 100 := Nat.mul_lt_mul_of_pos_right h (by decide)
    _ < 2 ^ 64 := by decide

/-- The percentage is that of the numbers, as long as neither the product nor the
conversion to `int` wraps. -/
theorem Tallied.percent {dl : DlCtx} {t : Tally} (h : Tallied dl t)
    (hproduct : t.received * 100 < 2 ^ 64) (hint : t.percent < 2 ^ 31) :
    dl.percent.toInt = t.percent := by
  have hquotient : (dl.bytesReceived * 100 / dl.bytesTotal).toNat = t.percent := by
    have hreceived : t.received < 2 ^ 64 := by omega
    rw [h.received, h.total, UInt64.toNat_div, UInt64.toNat_mul, UInt64.toNat_ofNat',
      Nat.mod_eq_of_lt hreceived]
    exact congrArg (fun n => n / t.total.toNat) (Nat.mod_eq_of_lt hproduct)
  unfold DlCtx.percent
  split
  · rename_i hzero
    rw [Tally.percent_of_zero (h.total.symm.trans hzero)]
    rfl
  · rw [hquotient, Int32.toInt_ofNat_of_lt hint]

theorem Tallied.percent_of_sane {dl : DlCtx} {t : Tally} (h : Tallied dl t)
    (hsane : t.Sane) : dl.percent.toInt = t.percent := by
  apply h.percent hsane.left
  exact Nat.lt_of_le_of_lt (Tally.percent_le_iff.mpr hsane.right) (by decide)

/-- A step that makes no report. -/
theorem Tallied.silent {dl dl' : DlCtx} {t t' : Tally} (h : Tallied dl t)
    (hbefore : Tally.Before t t') (hfailed : dl'.failed = t'.failed)
    (hreceived : dl'.bytesReceived = UInt64.ofNat t'.received)
    (htotal : dl'.bytesTotal = t'.total) (hreports : dl'.reports = dl.reports) :
    Tallied dl' t' := by
  refine ⟨hfailed, hreceived, htotal, ?_⟩
  intro hsane
  rw [hreports]
  exact (h.reports (hbefore.sane hsane)).mono (Int.ofNat_le.mpr hbefore.percent)

/-- The other fields of the context do not matter. -/
theorem Tallied.congr {dl dl' : DlCtx} {t : Tally} (h : Tallied dl t)
    (hfailed : dl'.failed = dl.failed) (hreceived : dl'.bytesReceived = dl.bytesReceived)
    (htotal : dl'.bytesTotal = dl.bytesTotal) (hreports : dl'.reports = dl.reports) :
    Tallied dl' t :=
  h.silent ⟨Nat.le_refl _, Or.inr rfl⟩ (hfailed.trans h.failed) (hreceived.trans h.received)
    (htotal.trans h.total) hreports

/-- A report of a transfer that goes on. -/
theorem Tallied.report {dl : DlCtx} {t : Tally} (h : Tallied dl t)
    {status : LeoFileTransferStatus} (err : Option (List UInt8))
    (hstatus : status ≠ LeoFileTransferStatus.completed) :
    Tallied (dl.reportProgress status err) t := by
  refine ⟨h.failed, h.received, h.total, ?_⟩
  intro hsane
  have hpercent := h.percent_of_sane hsane
  have hreports := h.reports hsane
  rw [← hpercent] at hreports ⊢
  have hpos : 0 ≤ dl.percent.toInt := by
    rw [hpercent]
    exact Int.natCast_nonneg _
  exact hreports.snoc hpos hstatus

/-- A callback without a Content-Length that brings no byte, or none that counts. -/
theorem Tallied.idle {dl dl' : DlCtx} {t : Tally} (h : Tallied dl t) {c : DlCallback}
    (hlength : c.contentLength = 0)
    (hnothing : dl.failed = true ∨ c.fails = true ∨ c.data = [])
    (hfailed : dl'.failed = (dl.failed || c.fails))
    (hreceived : dl'.bytesReceived = dl.bytesReceived)
    (htotal : dl'.bytesTotal = dl.bytesTotal) (hreports : dl'.reports = dl.reports) :
    Tallied dl' (t.callback c) := by
  refine h.silent (t.before_callback c) ?_ ?_ ?_ hreports
  · rw [hfailed, h.failed]
    rfl
  · rw [hreceived, h.received, Tally.callback_received]
    rw [← h.failed]
    exact hnothing
  · rw [htotal, h.total, Tally.callback_total hlength]

/-- A chunk of data that is written. -/
theorem Tallied.written {dl : DlCtx} {t : Tally} (h : Tallied dl t)
    (hfailed : dl.failed = false) {bytes : List UInt8} (hne : bytes ≠ []) :
    Tallied (dlLwsCallback dl (DlCallback.receiveClientHttpRead bytes none))
      (t.callback (DlCallback.receiveClientHttpRead bytes none)) := by
  have hfails : (DlCallback.receiveClientHttpRead bytes none).fails = false := Bool.and_false _
  have hok : (t.failed || (DlCallback.receiveClientHttpRead bytes none).fails) = false := by
    rw [hfails, ← h.failed, hfailed]
    rfl
  have hcounted : Tallied
      { dl with
        file := dl.file ++ bytes
        digested := dl.digested ++ bytes
        bytesReceived := dl.bytesReceived + UInt64.ofNat bytes.length }
      (t.callback (DlCallback.receiveClientHttpRead bytes none)) := by
    refine h.silent (t.before_callback _) ?_ ?_ ?_ rfl
    · exact hfailed.trans hok.symm
    · rw [Tally.callback, hok, if_neg Bool.false_ne_true, UInt64.ofNat_add, ← h.received]
      rfl
    · rw [Tally.callback_total rfl]
      exact h.total
  simp only [dlLwsCallback, if_pos (And.intro hne hfailed)]
  split
  · apply Tallied.report _ none (by decide)
    exact hcounted.congr rfl rfl rfl rfl
  · exact hcounted

theorem Tallied.callback {dl : DlCtx} {t : Tally} (h : Tallied dl t) (c : DlCallback) :
    Tallied (dlLwsCallback dl c) (t.callback c) := by
  cases c with
  | connectionError reason =>
      exact h.idle rfl (Or.inr (Or.inl rfl)) (Bool.or_true _).symm rfl rfl rfl
  | establishedClientHttp status contentLength =>
      have htotal : (if dl.bytesTotal = 0 then (contentLength.map strtoull).getD 0
          else dl.bytesTotal) =
          (t.callback (DlCallback.establishedClientHttp status contentLength)).total := by
        rw [h.total]
        rfl
      have hreceived : dl.bytesReceived = UInt64.ofNat
          (t.callback (DlCallback.establishedClientHttp status contentLength)).received := by
        rw [Tally.callback_received (Or.inr (Or.inr rfl))]
        exact h.received
      have hfailed : (dlLwsCallback dl
          (DlCallback.establishedClientHttp status contentLength)).failed =
          (t.callback (DlCallback.establishedClientHttp status contentLength)).failed := by
        simp only [dlLwsCallback, Tally.callback, DlCallback.fails]
        split
        · rename_i hstatus
          rw [decide_eq_true hstatus, Bool.or_true]
        · rename_i hstatus
          rw [decide_eq_false hstatus, Bool.or_false]
          exact h.failed
      apply h.silent (t.before_callback _) hfailed
      · simp only [dlLwsCallback]
        split <;> exact hreceived
      · simp only [dlLwsCallback]
        split <;> exact htotal
      · simp only [dlLwsCallback]
        split <;> rfl
  | receiveClientHttp =>
      exact h.idle rfl (Or.inr (Or.inr rfl)) (Bool.or_false _).symm rfl rfl rfl
  | receiveClientHttpRead bytes fault =>
      by_cases hwrite : bytes ≠ [] ∧ dl.failed = false
      · cases fault with
        | none =>
            exact h.written hwrite.right hwrite.left
        | some fault =>
            have hfails : (DlCallback.receiveClientHttpRead bytes (some fault)).fails = true :=
              (Bool.and_true _).trans (decide_eq_true hwrite.left)
            have hfailed : true = (dl.failed ||
                (DlCallback.receiveClientHttpRead bytes (some fault)).fails) := by
              rw [hfails, Bool.or_true]
            simp only [dlLwsCallback, if_pos hwrite]
            exact h.idle rfl (Or.inr (Or.inl hfails)) hfailed rfl rfl rfl
      · have hsame : dlLwsCallback dl (DlCallback.receiveClientHttpRead bytes fault) = dl :=
          if_neg hwrite
        rw [hsame]
        rw [not_and_or, not_not, Bool.not_eq_false] at hwrite
        rcases hwrite with hempty | hfailed
        · subst hempty
          exact h.idle rfl (Or.inr (Or.inr rfl)) (Bool.or_false _).symm rfl rfl rfl
        · refine h.idle rfl (Or.inl hfailed) ?_ rfl rfl rfl
          rw [hfailed, Bool.true_or]
  | completedClientHttp =>
      exact h.idle rfl (Or.inr (Or.inr rfl)) (Bool.or_false _).symm rfl rfl rfl
  | closedClientHttp =>
      exact h.idle rfl (Or.inr (Or.inr rfl)) (Bool.or_false _).symm rfl rfl rfl
  | timer =>
      exact h.idle rfl (Or.inr (Or.inl rfl)) (Bool.or_true _).symm rfl rfl rfl
  | other =>
      exact h.idle rfl (Or.inr (Or.inr rfl)) (Bool.or_false _).symm rfl rfl rfl

theorem Tallied.callbacks {dl : DlCtx} {t : Tally} (h : Tallied dl t)
    (cs : List DlCallback) :
    Tallied (cs.foldl dlLwsCallback dl) (cs.foldl Tally.callback t) := by
  induction cs generalizing dl t with
  | nil => exact h
  | cons c cs ih => exact ih (h.callback c)

/-!
## The run
-/

theorem Tallied.broken {dl dl' : DlCtx} {t : Tally} (h : Tallied dl t) {b : Bool}
    (hfailed : dl'.failed = (dl.failed || b))
    (hreceived : dl'.bytesReceived = dl.bytesReceived)
    (htotal : dl'.bytesTotal = dl.bytesTotal) (hreports : dl'.reports = dl.reports) :
    Tallied dl' (t.broken b) := by
  refine h.silent ⟨Nat.le_refl _, Or.inr rfl⟩ ?_ (hreceived.trans h.received)
    (htotal.trans h.total) hreports
  rw [hfailed, h.failed]
  rfl

/-- What the loop leaves. -/
theorem Tallied.serve {services : List DlService} {dl dl' : DlCtx} {timedOut : Bool}
    {cs : List DlCallback} {t : Tally}
    (hserve : dlServe services dl = some (dl', timedOut)) (hfollows : Follows dl cs)
    (h : Tallied dl t) :
    Tallied dl' (((servedCallbacks dl.done services).foldl Tally.callback t).broken
      (interrupted dl.done services)) := by
  induction services generalizing dl cs t with
  | nil =>
      rw [dlServe] at hserve
      cases hdone : dl.done with
      | true =>
          rw [hdone, if_pos rfl] at hserve
          cases hserve
          exact h.broken (Bool.or_false _).symm rfl rfl rfl
      | false =>
          rw [hdone, if_neg Bool.false_ne_true] at hserve
          cases hserve
  | cons s services ih =>
      rw [dlServe] at hserve
      cases hdone : dl.done with
      | true =>
          rw [hdone, if_pos rfl] at hserve
          cases hserve
          exact h.broken (Bool.or_false _).symm rfl rfl rfl
      | false =>
          simp only [hdone, if_neg Bool.false_ne_true] at hserve
          have hnext := hfollows.callbacks s.callbacks
          have hends : (s.callbacks.foldl dlLwsCallback dl).done =
              s.callbacks.any DlCallback.ends := by
            rw [hnext.done, List.any_append, ← hfollows.done, hdone, Bool.false_or]
          have hserved := h.callbacks s.callbacks
          rw [interrupted, servedCallbacks, List.foldl_append]
          cases hfails : s.fails with
          | true =>
              rw [hfails, if_pos rfl] at hserve
              cases hserve
              exact hserved.broken (Bool.or_true _).symm rfl rfl rfl
          | false =>
              rw [hfails, if_neg Bool.false_ne_true] at hserve
              cases hlate : s.late with
              | true =>
                  rw [hlate, if_pos rfl] at hserve
                  cases hserve
                  exact hserved.broken (Bool.or_true _).symm rfl rfl rfl
              | false =>
                  rw [hlate, if_neg Bool.false_ne_true] at hserve
                  have hrest := ih hserve hnext hserved
                  rw [hends] at hrest
                  exact hrest

/-- The numbers of a transfer at its end. -/
def transferTally (r : DlRequest) (w : DlWorld) : Tally :=
  if opensPart r w && w.digestStarts && w.contextCreated then
    let t := w.connecting.foldl Tally.callback (Tally.start r)
    if w.connected then
      let served := servedCallbacks (w.connecting.any DlCallback.ends) w.services
      w.destroying.foldl Tally.callback
        ((served.foldl Tally.callback t).broken w.isInterrupted)
    else t
  else Tally.start r

section

variable {sha256 : List UInt8 -> Vector UInt8 32} {r : DlRequest} {disk : DlDisk}
  {w : DlWorld}

/-- The reports of the end of a transfer all carry the percentage of the end, and one of
them says that it is completed if and only if the transfer succeeds. -/
structure FinalReports (dl : DlCtx) (news : List LeoFileTransferProgress) (e : DlEnd) :
    Prop where
  reports : e.reports = dl.reports ++ news
  percent : forall p, p ∈ news -> p.percent = dl.percent
  completed : (exists p, p ∈ news ∧ p.status = LeoFileTransferStatus.completed) <->
    e.error = none

theorem finalReports_dlAbort (error : DlError) (dl : DlCtx) (bytes err : List UInt8) :
    exists news, news ≠ [] ∧ FinalReports dl news (dlAbort error w disk dl bytes err) := by
  refine ⟨_, List.cons_ne_nil _ _, rfl, ?_, ?_⟩
  · intro p hp
    rw [List.mem_singleton.mp hp]
  · constructor
    · rintro ⟨p, hp, hstatus⟩
      rw [List.mem_singleton.mp hp] at hstatus
      cases hstatus
    · intro herror
      cases herror

theorem finalReports_verify (dl : DlCtx) (bytes : List UInt8) :
    exists news, news ≠ [] ∧
      FinalReports dl news (verifyTransfer sha256 r w disk dl bytes) := by
  unfold verifyTransfer
  simp only
  split
  · exact finalReports_dlAbort _ _ _ _
  · split
    · exact finalReports_dlAbort _ _ _ _
    · refine ⟨_, List.cons_ne_nil _ _, rfl, ?_, ?_⟩
      · intro p hp
        rw [List.mem_singleton.mp hp]
        rfl
      · exact ⟨fun _ => rfl, fun _ => ⟨_, List.mem_singleton_self _, rfl⟩⟩

/-- The report before the check of the hash is one of the last ones. -/
theorem finalReports_verifying {dl : DlCtx} {e : DlEnd}
    (h : exists news, news ≠ [] ∧
      FinalReports (dl.reportProgress LeoFileTransferStatus.verifying none) news e) :
    exists news, news ≠ [] ∧ FinalReports dl news e := by
  rcases h with ⟨news, _, h⟩
  refine ⟨_, List.cons_ne_nil _ news, h.reports.trans (List.append_assoc _ _ _), ?_, ?_⟩
  · intro p hp
    rcases List.mem_cons.mp hp with rfl | hnews
    · rfl
    · exact h.percent p hnews
  · rw [← h.completed]
    constructor
    · rintro ⟨p, hp, hstatus⟩
      rcases List.mem_cons.mp hp with rfl | hnews
      · cases hstatus
      · exact ⟨p, hnews, hstatus⟩
    · rintro ⟨p, hp, hstatus⟩
      exact ⟨p, List.mem_cons_of_mem _ hp, hstatus⟩

theorem finalReports_finish (dl : DlCtx) (timedOut : Bool) :
    exists news, news ≠ [] ∧ FinalReports (w.destroying.foldl dlLwsCallback dl) news
      (finishTransfer sha256 r w disk dl timedOut) := by
  unfold finishTransfer
  simp only
  split
  · exact finalReports_dlAbort _ _ _ _
  · exact finalReports_verifying (finalReports_verify _ _)

/-- A transfer that ends without a further report. -/
theorem finalReports_nil {dl : DlCtx} {e : DlEnd} (hreports : e.reports = dl.reports)
    (herror : e.error ≠ none) : FinalReports dl [] e := by
  refine ⟨hreports.trans (List.append_nil _).symm, ?_, ?_⟩
  · intro p hp
    cases hp
  · refine ⟨?_, fun h => absurd h herror⟩
    rintro ⟨p, hp, _⟩
    cases hp

theorem tallied_start : Tallied (openedDl r) (Tally.start r) :=
  ⟨rfl, rfl, rfl, fun _ => ascending_nil _⟩

/-- The reports of a transfer: those of the callbacks, and those of its end. -/
theorem run_reports {e : DlEnd} (hrun : leoFileTransferRun sha256 r disk w = some e) :
    exists dl news, Tallied dl (transferTally r w) ∧ FinalReports dl news e ∧
      ((transferTally r w).received = 0 ∨ w.connected = false ∨ news ≠ []) := by
  unfold transferTally
  cases hopened : opensPart r w with
  | false =>
      rcases run_unopened hopened hrun with ⟨herror, _, hreports⟩
      exact ⟨openedDl r, [], tallied_start, finalReports_nil hreports herror, Or.inl rfl⟩
  | true =>
      rcases opensPart_iff.mp hopened with ⟨hrefusal, hworkdir, hopens⟩
      unfold leoFileTransferRun at hrun
      simp only [hrefusal, hworkdir, hopens, Bool.not_true, Bool.false_eq_true,
        if_false] at hrun
      have hstarted : Tallied
          ((openedDl r).reportProgress LeoFileTransferStatus.downloading none)
          (Tally.start r) :=
        tallied_start.report none (by decide)
      cases hdigest : w.digestStarts with
      | false =>
          simp only [hdigest, Bool.not_false, if_true, Option.some.injEq] at hrun
          subst hrun
          exact ⟨openedDl r, [], tallied_start,
            finalReports_nil rfl (Option.some_ne_none _), Or.inl rfl⟩
      | true =>
          simp only [hdigest, Bool.not_true, Bool.false_eq_true, if_false] at hrun
          cases hcontext : w.contextCreated with
          | false =>
              simp only [hcontext, Bool.not_false, if_true, Option.some.injEq] at hrun
              subst hrun
              exact ⟨_, [], hstarted, finalReports_nil rfl (Option.some_ne_none _), Or.inl rfl⟩
          | true =>
              simp only [hcontext, Bool.not_true, Bool.false_eq_true, if_false] at hrun
              have hconnecting := hstarted.callbacks w.connecting
              cases hconnected : w.connected with
              | false =>
                  simp only [hconnected, Bool.not_false, if_true, Option.some.injEq] at hrun
                  subst hrun
                  exact ⟨_, [], hconnecting, finalReports_nil rfl (Option.some_ne_none _),
                    Or.inr (Or.inl rfl)⟩
              | true =>
                  simp only [hconnected, Bool.not_true, Bool.false_eq_true, if_false,
                    Option.map_eq_some_iff, Prod.exists] at hrun
                  rcases hrun with ⟨dl, timedOut, hserve, rfl⟩
                  have hfollows : Follows
                      { w.connecting.foldl dlLwsCallback
                        ((openedDl r).reportProgress LeoFileTransferStatus.downloading
                          none) with timeoutSecs := effectiveTimeout r } ([] ++ w.connecting) :=
                    ((follows_nil rfl rfl rfl rfl rfl : Follows
                      ((openedDl r).reportProgress LeoFileTransferStatus.downloading none)
                        []).callbacks w.connecting).congr rfl rfl rfl rfl rfl
                  have hserved := Tallied.serve hserve hfollows
                    (hconnecting.congr rfl rfl rfl rfl)
                  rw [hfollows.done] at hserved
                  rcases finalReports_finish dl timedOut with ⟨news, hne, hfinal⟩
                  exact ⟨_, news, hserved.callbacks w.destroying, hfinal,
                    Or.inr (Or.inr hne)⟩

end

/-!
## Percentages
-/

/-- The reports of a transfer are percentages: between 0 and 100, in ascending order, and
100 when it is completed. -/
structure Percentages (rs : List LeoFileTransferProgress) : Prop where
  range : forall p, p ∈ rs -> 0 ≤ p.percent.toInt ∧ p.percent.toInt ≤ 100
  ordered : rs.Pairwise fun a b => a.percent.toInt ≤ b.percent.toInt
  completed : forall p, p ∈ rs -> p.status = LeoFileTransferStatus.completed ->
    p.percent.toInt = 100

/-- Not more than the total is received, up to the rounding; and if the transfer succeeds,
there is a total and not less is received. -/
structure Measured (sha256 : List UInt8 -> Vector UInt8 32) (r : DlRequest)
    (w : DlWorld) : Prop where
  sane : (transferTally r w).Sane
  complete : Succeeds sha256 r w -> (transferTally r w).total ≠ 0 ∧
    (transferTally r w).total.toNat ≤ (transferTally r w).received

/-- Neither the product nor the conversion to `int` wraps at the end, and a connection that
cannot be made has brought no data. -/
structure Unwrapped (r : DlRequest) (w : DlWorld) : Prop where
  product : (transferTally r w).received * 100 < 2 ^ 64
  quotient : (transferTally r w).percent < 2 ^ 31
  unconnected : w.connected = false -> (transferTally r w).received = 0

/-- The transfers that return `LEO_OK`. -/
theorem succeeds_iff {sha256 : List UInt8 -> Vector UInt8 32} {r : DlRequest} {disk : DlDisk}
    {w : DlWorld} {e : DlEnd} (hrun : leoFileTransferRun sha256 r disk w = some e) :
    Succeeds sha256 r w <-> e.error = none := by
  cases hopened : opensPart r w with
  | false =>
      refine ⟨fun h => ?_, fun h => absurd h (run_unopened hopened hrun).left⟩
      exact absurd (hopened.symm.trans h.opened) Bool.false_ne_true
  | true =>
      rcases run_opened hopened hrun with ⟨hsucceeds, herror, _⟩ | ⟨hfails, herror, _⟩
      · exact ⟨fun _ => herror, fun _ => hsucceeds⟩
      · exact ⟨fun h => absurd h hfails, fun h => absurd h herror⟩

theorem Measured.percentages {sha256 : List UInt8 -> Vector UInt8 32} {r : DlRequest}
    {disk : DlDisk} {w : DlWorld} {e : DlEnd} (h : Measured sha256 r w)
    (hrun : leoFileTransferRun sha256 r disk w = some e) : Percentages e.reports := by
  rcases run_reports hrun with ⟨dl, news, htallied, hfinal, _⟩
  have hold := htallied.reports h.sane
  have hpercent := htallied.percent_of_sane h.sane
  have hle : (transferTally r w).percent ≤ 100 := Tally.percent_le_iff.mpr h.sane.right
  have hnew : forall p, p ∈ news -> p.percent.toInt = (transferTally r w).percent := by
    intro p hp
    rw [hfinal.percent p hp]
    exact hpercent
  rw [hfinal.reports]
  refine ⟨?_, ?_, ?_⟩
  · intro p hp
    rcases List.mem_append.mp hp with hp | hp
    · have hrange := hold.range p hp
      omega
    · have hsame := hnew p hp
      omega
  · rw [List.pairwise_append]
    refine ⟨hold.ordered, ?_, ?_⟩
    · apply List.pairwise_of_forall_mem_list
      intro p hp q hq
      rw [hnew p hp, hnew q hq]
    · intro p hp q hq
      rw [hnew q hq]
      exact (hold.range p hp).right
  · intro p hp hstatus
    rcases List.mem_append.mp hp with hp | hp
    · exact absurd hstatus (hold.underway p hp)
    · have hsucceeds := (succeeds_iff hrun).mpr (hfinal.completed.mp ⟨p, hp, hstatus⟩)
      have hge : 100 ≤ (transferTally r w).percent :=
        Tally.le_percent_iff.mpr (h.complete hsucceeds)
      have hsame := hnew p hp
      omega

theorem Percentages.measured {sha256 : List UInt8 -> Vector UInt8 32} {r : DlRequest}
    {disk : DlDisk} {w : DlWorld} {e : DlEnd} (h : Percentages e.reports)
    (hunwrapped : Unwrapped r w) (hrun : leoFileTransferRun sha256 r disk w = some e) :
    Measured sha256 r w := by
  rcases run_reports hrun with ⟨dl, news, htallied, hfinal, hreported⟩
  have hpercent := htallied.percent hunwrapped.product hunwrapped.quotient
  rw [hfinal.reports] at h
  constructor
  · by_cases hnothing : (transferTally r w).received = 0
    · exact Tally.sane_of_nothing hnothing
    · have hne : news ≠ [] := by
        rcases hreported with hzero | hunconnected | hne
        · exact absurd hzero hnothing
        · exact absurd (hunwrapped.unconnected hunconnected) hnothing
        · exact hne
      -- the last reports carry the percentage of the end
      have hlast := List.head_mem hne
      have hrange := h.range _ (List.mem_append_right _ hlast)
      rw [hfinal.percent _ hlast, hpercent] at hrange
      exact ⟨hunwrapped.product, Tally.percent_le_iff.mp (by omega)⟩
  · intro hsucceeds
    rcases hfinal.completed.mpr ((succeeds_iff hrun).mp hsucceeds) with ⟨p, hp, hstatus⟩
    have hfull := h.completed p (List.mem_append_right _ hp) hstatus
    rw [hfinal.percent p hp, hpercent] at hfull
    exact Tally.le_percent_iff.mp (by omega)

/-- In every transfer that has returned the reports are percentages if it is measured, and
only if, unless a number wraps; and below 2^57 bytes the product does not. -/
theorem progress_percentages_iff (sha256 : List UInt8 -> Vector UInt8 32) (r : DlRequest)
    (disk : DlDisk) (w : DlWorld) {e : DlEnd}
    (hrun : leoFileTransferRun sha256 r disk w = some e) :
    (Measured sha256 r w -> Percentages e.reports) ∧
    (Unwrapped r w -> Percentages e.reports -> Measured sha256 r w) ∧
    (forall dl : DlCtx, dl.bytesReceived.toNat < 2 ^ 57 ->
      (dl.bytesReceived * 100).toNat = dl.bytesReceived.toNat * 100) := by
  refine ⟨fun h => h.percentages hrun, fun hunwrapped h => h.measured hunwrapped hrun, ?_⟩
  intro dl hsmall
  rw [UInt64.toNat_mul]
  exact Nat.mod_eq_of_lt (received_mul_lt hsmall)

/-- Two bytes of two. -/
theorem progress_percentages_iff_two :
    exists e, leoFileTransferRun Sample.noHash (Sample.fileRequest 2) Sample.emptyDisk
      Sample.earlyClose = some e ∧ Percentages e.reports := by
  have hmeasured : Measured Sample.noHash (Sample.fileRequest 2) Sample.earlyClose :=
    ⟨⟨by decide, Or.inr (by decide)⟩, fun _ => ⟨by decide, by decide⟩⟩
  refine ⟨_, rfl, ?_⟩
  exact (progress_percentages_iff Sample.noHash (Sample.fileRequest 2) Sample.emptyDisk
    Sample.earlyClose rfl).left hmeasured

/-- Without a size and a Content-Length the completed transfer is reported with 0. -/
theorem completed_at_zero_percent :
    ¬ forall (sha256 : List UInt8 -> Vector UInt8 32) (r : DlRequest) (disk : DlDisk)
      (w : DlWorld) (e : DlEnd), leoFileTransferRun sha256 r disk w = some e ->
      Percentages e.reports := by
  intro hall
  obtain ⟨e, hrun, p, hp, hstatus, hzero⟩ : exists e,
      leoFileTransferRun Sample.noHash (Sample.fileRequest 0) Sample.emptyDisk
        Sample.earlyClose = some e ∧
      exists p, p ∈ e.reports ∧ p.status = LeoFileTransferStatus.completed ∧ p.percent = 0 :=
    ⟨_, rfl, _, List.mem_of_getLast? rfl, rfl, rfl⟩
  have hfull := (hall Sample.noHash (Sample.fileRequest 0) Sample.emptyDisk
    Sample.earlyClose e hrun).completed p hp hstatus
  rw [hzero] at hfull
  exact absurd hfull (by decide)

end Agent
end LeoOne
