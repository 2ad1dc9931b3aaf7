import HexrotPxiCom.LogTlm.Directory
import HexrotPxiCom.LogTlm.Lifecycle

/-!
# The log files of several sessions

Every `logTlm_open` begins a new log, and nothing but the names keeps the files of an earlier one.
-/

namespace HexrotPxiCom.LogTlm

set_option autoImplicit false

universe u
variable {ρ : Type u}

/-- Every `fclose` of a flush succeeds. -/
def Stdio.Closes (io : Stdio) : Prop := io.fclose = .done ∧ io.fcloseError = .done

instance (io : Stdio) : Decidable io.Closes := inferInstanceAs (Decidable (_ ∧ _))

namespace LogFile
variable {f g h : LogFile ρ}

/-- The files of a name, up to the rotated file before `k`. -/
def readBack (b : String) (k : Int) (f : LogFile ρ) : List ρ :=
  ((List.range k.toNat).flatMap fun i : Nat => f.contents ⟨b, some i⟩) ++ f.contents ⟨b, none⟩

theorem readBack_current : f.readBack f.filename f.countRotatingFile = f.logContents := rfl

theorem readBack_congr {b : String} {k : Int} (hcontents : ∀ n : FileName, n.base = b →
    g.contents n = f.contents n) : g.readBack b k = f.readBack b k := by
  have hfiles : ∀ e, g.contents ⟨b, e⟩ = f.contents ⟨b, e⟩ := fun e => hcontents ⟨b, e⟩ rfl
  unfold readBack
  simp only [hfiles]

theorem close_done_logContents : (f.close .done).2.logContents = f.logContents :=
  logContents_congr (close_filename _) (close_countRotatingFile _) close_done_contents

/-- From `f` to `g` the log grows, and the files of other names stay. -/
structure Grows (f g : LogFile ρ) : Prop where
  filename : g.filename = f.filename
  current : g.pFile = none ∨ g.pFile = some g.current
  others : ∀ n, n.base ≠ f.filename → g.contents n = f.contents n
  contents : f.logContents <+: g.logContents
  bounded : f.countRotatingFile ≤ intMax → g.countRotatingFile ≤ intMax

namespace Grows

theorem trans (hfg : Grows f g) (hgh : Grows g h) : Grows f h := by
  refine ⟨hgh.filename.trans hfg.filename, hgh.current, ?_, hfg.contents.trans hgh.contents,
    hgh.bounded ∘ hfg.bounded⟩
  intro n hn
  exact (hgh.others n fun heq => hn (heq.trans hfg.filename)).trans (hfg.others n hn)

theorem refl (hf : f.pFile = none ∨ f.pFile = some f.current) : Grows f f :=
  ⟨rfl, hf, fun _ _ => rfl, List.prefix_refl _, id⟩

theorem close : Grows f (f.close .done).2 := by
  refine ⟨close_filename _, Or.inl (close_pFile _), fun n _ => close_done_contents n, ?_, ?_⟩
  · rw [close_done_logContents]
  · rw [close_countRotatingFile]
    exact id

theorem append (hf : f.pFile = none ∨ f.pFile = some f.current) (rs : List ρ) :
    Grows f (f.append rs) := by
  rcases hf with hnone | hopen
  · have hcontents : ∀ n, (f.append rs).contents n = f.contents n := by
      intro n
      simp [LogFile.contents, hnone]
    refine ⟨rfl, Or.inl hnone, fun n _ => hcontents n, ?_, id⟩
    rw [logContents_congr (f := f) (g := f.append rs) rfl rfl hcontents]
  · refine ⟨rfl, Or.inr hopen, ?_, ?_, id⟩
    · intro n hn
      have hne : f.current ≠ n := by
        rintro rfl
        exact hn rfl
      simp [LogFile.contents, hopen, hne]
    · rw [append_logContents hopen]
      exact List.prefix_append _ _

theorem writeToFile (hf : f.pFile = none ∨ f.pFile = some f.current) (r : WriteResult)
    (size : Nat) (rs : List ρ) : Grows f (f.writeToFile r .done size rs).2 := by
  have hfwrite : Grows f (f.fwrite r size rs).2 := by
    unfold fwrite
    split
    · exact refl hf
    · cases r with
      | full => exact append hf rs
      | short k => exact append hf (rs.take k)
  unfold LogFile.writeToFile
  dsimp only
  split
  · exact hfwrite.trans close
  · exact hfwrite

theorem fopen_others (hclosed : f.pFile = none) {n : FileName} (hn : n.base ≠ f.filename) :
    f.fopen.contents n = f.contents n := by
  have hne : n ≠ f.current := by
    rintro rfl
    exact hn rfl
  simp [LogFile.fopen, LogFile.contents, hclosed, hne, hne.symm]

theorem renamed_others (hclosed : f.pFile = none) (c : Int) {n : FileName}
    (hn : n.base ≠ f.filename) :
    LogFile.contents { f with disk := f.renameCurrent, countRotatingFile := c } n =
      f.contents n := by
  have hcurrent : n ≠ f.current := by
    rintro rfl
    exact hn rfl
  have hrotated : n ≠ f.rotated f.countRotatingFile := by
    rintro rfl
    exact hn rfl
  simp [LogFile.contents, hclosed, renameCurrent, hcurrent, hrotated]

/-- A rotation whose `fclose` succeeds and whose file has a number, whatever part of it fails. -/
theorem rotateFile (hf : f.pFile = some f.current) {io : Stdio} (hclose : io.fclose = .done)
    (hnumber : io.rename = true → f.HasNumber) : Grows f (f.rotateFile io).2 := by
  have hlog := rotateFile_logContents hf io
  have hstatus : (f.close .done).1 = 0 := close_status hf .done
  have hclosed : (f.close .done).2.pFile = none := close_pFile .done
  have hname : (f.close .done).2.filename = f.filename := close_filename .done
  cases hrename : io.rename with
  | false =>
    have hr : (f.rotateFile io).2 = (f.close .done).2 := by
      simp [LogFile.rotateFile, hclose, hstatus, hrename]
    rw [hr]
    exact close
  | true =>
    rw [if_pos ⟨hclose, hrename⟩, rotateTo_logContents (hnumber hrename)] at hlog
    have hothers : ∀ n : FileName, n.base ≠ f.filename →
        LogFile.contents { (f.close .done).2 with
          disk := (f.close .done).2.renameCurrent
          countRotatingFile := intSucc (f.close .done).2.countRotatingFile } n = f.contents n := by
      intro n hn
      rw [renamed_others hclosed _ (by rw [hname]; exact hn), close_done_contents]
    cases hopen : io.fopen with
    | false =>
      have hr : (f.rotateFile io).2 = { (f.close .done).2 with
          disk := (f.close .done).2.renameCurrent
          countRotatingFile := intSucc (f.close .done).2.countRotatingFile } := by
        simp [LogFile.rotateFile, hclose, hstatus, hrename, hopen]
      rw [hr] at hlog ⊢
      exact ⟨hname, Or.inl hclosed, hothers, by rw [hlog], fun _ => intSucc_le _⟩
    | true =>
      have hr : (f.rotateFile io).2 = f.rotateTo := by
        simp [LogFile.rotateFile, hclose, hstatus, hrename, hopen, rotateTo]
      rw [hr] at hlog ⊢
      refine ⟨rotateTo_filename, Or.inr rfl, ?_, by rw [hlog], fun _ => intSucc_le _⟩
      intro n hn
      have hrenamed := fopen_others (f := { (f.close .done).2 with
        disk := (f.close .done).2.renameCurrent
        countRotatingFile := intSucc (f.close .done).2.countRotatingFile }) hclosed
        (n := n) (by rw [hname]; exact hn)
      exact hrenamed.trans (hothers n hn)

/-- The last test of `logTlm_flushToFile`. -/
theorem ended {l : Int × LogFile ρ} (h : Grows f l.2) (isRotated : Bool) (left added : Int) :
    Grows f (if l.1 = -1 then (l.2.close .done).2
      else { l.2 with countFile := if isRotated then left else l.2.countFile + added }) := by
  split
  · exact h.trans close
  · exact ⟨h.filename, h.current, h.others, h.contents, h.bounded⟩

/-- A flush whose `fclose`s succeed, however many records it is given. -/
theorem flushToFile (hf : f.pFile = none ∨ f.pFile = some f.current) {io : Stdio}
    (hcloses : io.Closes) (size : Nat) (pBuffer : List ρ) (n : Int)
    (hnumber : f.pFile ≠ none → io.Renames → f.countFileMax - f.countFile ≤ n → f.HasNumber) :
    Grows f (f.flushToFile io size pBuffer n) := by
  rcases hf with hnone | hopen
  · rw [LogFile.flushToFile, if_pos hnone]
    exact refl (Or.inl hnone)
  have hne : f.pFile ≠ none := by
    rw [hopen]
    exact Option.some_ne_none _
  obtain ⟨hclose, hcloseError⟩ := hcloses
  rw [LogFile.flushToFile, if_neg hne]
  dsimp only
  rw [hcloseError]
  have hspace := numToFile_fills f (n := n)
  generalize (if decide (n ≤ f.countFileMax - f.countFile) = true then n
    else f.countFileMax - f.countFile) = numToFile at hspace ⊢
  have hw := writeToFile (Or.inr hopen) io.fwrite (sizeT (numToFile * size))
    (pBuffer.take numToFile.toNat)
  have hdone := writeToFile_done f io.fwrite .done (sizeT (numToFile * size))
    (pBuffer.take numToFile.toNat)
  generalize f.writeToFile io.fwrite .done (sizeT (numToFile * size))
    (pBuffer.take numToFile.toNat) = w at *
  have hr : Grows f (if w.1 = 0 ∧ f.countFileMax - f.countFile = numToFile then
      w.2.rotateFile io else w).2 := by
    split
    · rename_i hok
      rcases hdone with ⟨-, hfull, hdone⟩ | ⟨-, hbad, -⟩
      · refine hw.trans (rotateFile ?_ hclose fun hrename => ?_)
        · rw [hdone]
          exact hopen
        · rw [hdone]
          exact hnumber hne ⟨hfull, hclose, hrename⟩ (hspace hok.2)
      · rw [hbad] at hok
        exact absurd hok.1 (by decide)
    · exact hw
  generalize (if w.1 = 0 ∧ f.countFileMax - f.countFile = numToFile then w.2.rotateFile io else w)
    = r at *
  have hl : ∀ c : Bool, Grows f (if c = true then r.2.writeToFile io.fwriteLeft .done
      (sizeT ((n - numToFile) * size))
      ((pBuffer.drop numToFile.toNat).take (n - numToFile).toNat) else r).2 := by
    intro c
    split
    · exact hr.trans (writeToFile hr.current _ _ _)
    · exact hr
  exact ended (hl _) _ _ _

end Grows

end LogFile

/-- The files of a name in the directory, up to the rotated file before `k`. -/
def PathLog.readBack (b : String) (k : Int) (g : PathLog ρ) : List ρ :=
  ((List.range k.toNat).flatMap fun i : Nat => g.contents (FileName.mk b (some i)).path) ++
    g.contents (FileName.mk b none).path

def PathLog.CanNumber (n : Int) (g : PathLog ρ) : Prop :=
  g.countRotatingFile * g.countFileMax + g.countFile + n < 2 ^ 31 * g.countFileMax

instance (n : Int) (g : PathLog ρ) : Decidable (g.CanNumber n) :=
  inferInstanceAs (Decidable (_ < _))

theorem Shows.canNumber_iff {names : String → Prop} {f : LogFile ρ} {g : PathLog ρ}
    (h : Shows names f g) {n : Int} : g.CanNumber n ↔ f.CanNumber n := by
  unfold PathLog.CanNumber
  rw [h.countRotatingFile, h.countFileMax, h.countFile]
  rfl

theorem Shows.readBack {names : String → Prop} {f : LogFile ρ} {g : PathLog ρ}
    (hsep : Separated names) (h : Shows names f g) {b : String} (hb : names b) {k : Int}
    (hk : k ≤ intMax) : g.readBack b k = f.readBack b k := by
  have hcurrent : g.contents (FileName.mk b none).path = f.contents ⟨b, none⟩ :=
    h.contents hsep (n := ⟨b, none⟩) ⟨hb, fun _ hi => by cases hi⟩
  have hrotated : (List.range k.toNat).map
        (fun i : Nat => g.contents (FileName.mk b (some i)).path) =
      (List.range k.toNat).map (fun i : Nat => f.contents ⟨b, some i⟩) := by
    refine List.map_congr_left fun i hi => ?_
    have hi := List.mem_range.mp hi
    refine h.contents hsep (n := ⟨b, some i⟩) ⟨hb, fun j hj => ?_⟩
    cases hj
    omega
  unfold PathLog.readBack LogFile.readBack
  rw [List.flatMap_def, hrotated, hcurrent]
  rfl

/-- The directory, and for each name that has been opened how often its file has been rotated and
the records of the flushes that left the file open. -/
structure Archive (ρ : Type u) where
  log : PathLog ρ
  opened : List String
  session : String
  rotations : String → Int
  records : String → List ρ

namespace Archive

def start (log : PathLog ρ) : Archive ρ :=
  ⟨log, [], "", fun _ => log.countRotatingFile, fun _ => []⟩

def step (s : Archive ρ) : FileCall ρ → Option (Archive ρ)
  | .openFile io filename recordPerFile =>
    let o := s.log.openFile io filename recordPerFile
    if o.1 = 0 then
      some ⟨o.2, filename :: s.opened, filename, Function.update s.rotations filename 0,
        Function.update s.records filename []⟩
    else some { s with log := o.2 }
  | .flushToFile io size pBuffer n =>
    let log := s.log.flushToFile io size pBuffer n
    some { s with
      log := log
      rotations := Function.update s.rotations s.session log.countRotatingFile
      records :=
        if log.pFile = none then s.records
        else Function.update s.records s.session (s.records s.session ++ pBuffer.take n.toNat) }
  | .close fclose => some { s with log := (s.log.close fclose).2 }

/-- A name is opened once, a flush is given a filled buffer that fits into a file and the log, and
every `fclose` succeeds. -/
def Regular (names : String → Prop) (s : Archive ρ) : FileCall ρ → Prop
  | .openFile io filename recordPerFile =>
    names filename ∧ filename ∉ s.opened ∧ 0 < recordPerFile ∧ io.fclose = .done
  | .flushToFile io size pBuffer n => s.log.pFile = none ∨
    (io.Closes ∧ (io.Renames → s.log.CanNumber n) ∧ 0 ≤ n ∧ n ≤ s.log.countFileMax ∧
      n ≤ pBuffer.length ∧ 0 < size ∧ n * size < sizeTRange)
  | .close fclose => fclose = .done

/-- The records of every session are in its files. -/
structure Kept (f : LogFile ρ) (s : Archive ρ) : Prop where
  current : f.pFile = none ∨ f.Open ∧ f.filename = s.session ∧ s.session ∈ s.opened ∧
    f.logContents = s.records s.session
  session : s.rotations s.session = f.countRotatingFile
  bounded : ∀ b ∈ s.opened, s.rotations b ≤ intMax
  kept : ∀ b ∈ s.opened, s.records b <+: f.readBack b (s.rotations b)

section
variable {names : String → Prop} {f : LogFile ρ} {s t : Archive ρ} {io : Stdio}

theorem kept_closed {g : LogFile ρ} (h : Kept f s) (log : PathLog ρ) (hclosed : g.pFile = none)
    (hcontents : ∀ n, g.contents n = f.contents n)
    (hcount : g.countRotatingFile = f.countRotatingFile) : Kept g { s with log := log } := by
  refine ⟨Or.inl hclosed, h.session.trans hcount.symm, h.bounded, ?_⟩
  intro b hb
  rw [LogFile.readBack_congr (f := f) fun n _ => hcontents n]
  exact h.kept b hb

theorem kept_close (h : Kept f s) (log : PathLog ρ) :
    Kept (f.close .done).2 { s with log := log } :=
  kept_closed h log (LogFile.close_pFile _) LogFile.close_done_contents
    (LogFile.close_countRotatingFile _)

theorem kept_open {b : String} {r : Int} (h : Kept f s) (hclosed : f.pFile = none)
    (hnew : b ∉ s.opened) (hr : 0 < r) (log : PathLog ρ) :
    Kept
      { LogFile.fopen { f with filename := b } with
        countFileMax := r
        countFile := 0
        countRotatingFile := 0 }
      ⟨log, b :: s.opened, b, Function.update s.rotations b 0, Function.update s.records b []⟩ := by
  have hcurrent := List.mem_cons_self (a := b) (l := s.opened)
  refine ⟨Or.inr ⟨⟨rfl, Int.le_refl 0, hr, Int.le_refl 0, ?_, ?_⟩, rfl, hcurrent, ?_⟩,
    Function.update_self .., ?_, ?_⟩
  · simp [LogFile.fopen, LogFile.contents, LogFile.current]
  · intro i hi
    exact absurd hi (Int.not_lt.mpr (Int.natCast_nonneg i))
  · simp [LogFile.fopen, LogFile.logContents, LogFile.rotatedContents, LogFile.contents,
      LogFile.current]
  · intro c hc
    by_cases hcb : c = b
    · subst hcb
      dsimp only
      rw [Function.update_self]
      decide
    · dsimp only
      rw [Function.update_of_ne hcb]
      exact h.bounded c ((List.mem_cons.mp hc).resolve_left hcb)
  · intro c hc
    by_cases hcb : c = b
    · subst hcb
      dsimp only
      rw [Function.update_self]
      exact List.nil_prefix
    · have hold : c ∈ s.opened := (List.mem_cons.mp hc).resolve_left hcb
      dsimp only
      rw [Function.update_of_ne hcb, Function.update_of_ne hcb,
        LogFile.readBack_congr (f := f) fun n hn => ?_]
      · exact h.kept c hold
      · refine LogFile.Grows.fopen_others (f := { f with filename := b }) hclosed ?_
        rw [hn]
        exact hcb

theorem kept_openFile {b : String} {r : Int} (h : Kept f s) (hnew : b ∉ s.opened) (hr : 0 < r)
    (hfclose : io.fclose = .done) (log : PathLog ρ) :
    Kept (f.openFile io b r).2
      (if (f.openFile io b r).1 = 0 then
        ⟨log, b :: s.opened, b, Function.update s.rotations b 0, Function.update s.records b []⟩
      else { s with log := log }) := by
  have hkept := kept_close h s.log
  have hclosed : (f.close .done).2.pFile = none := LogFile.close_pFile _
  have hcontents (n : FileName) :
      LogFile.contents { (f.close .done).2 with filename := b } n =
        (f.close .done).2.contents n := rfl
  unfold LogFile.openFile
  rw [hfclose]
  dsimp only
  split
  · exact kept_close h log
  · split
    · exact kept_closed hkept log hclosed hcontents rfl
    · exact kept_open hkept hclosed hnew hr log

/-- A flush of the open file: its records are added, or the file is closed. -/
theorem flushToFile_added {size : Nat} {pBuffer : List ρ} {n : Int} (hf : f.Open) (h0 : 0 ≤ n)
    (hmax : n ≤ f.countFileMax) (hlen : n ≤ pBuffer.length) (hsize : 0 < size)
    (hfit : n * size < sizeTRange) (hnumber : io.Renames → f.CanNumber n) :
    (f.flushToFile io size pBuffer n).pFile = none ∨
      (f.flushToFile io size pBuffer n).Open ∧
        (f.flushToFile io size pBuffer n).logContents = f.logContents ++ pBuffer.take n.toNat := by
  rcases Int.lt_or_eq_of_le h0 with hpos | hzero
  · rcases LogFile.flushToFile_cases io size pBuffer n hf hpos hmax hlen hsize hfit hnumber with
      ⟨hclosed, -⟩ | ⟨hopen, hlog, -⟩
    · exact Or.inl hclosed
    · exact Or.inr ⟨hopen, hlog⟩
  · rw [← hzero]
    exact Or.inl (LogFile.flushToFile_zero io size pBuffer hf)

theorem kept_flushToFile {size : Nat} {pBuffer : List ρ} {n : Int} (h : Kept f s)
    (hok : f.pFile = none ∨ (io.Closes ∧ (io.Renames → f.CanNumber n) ∧ 0 ≤ n ∧
      n ≤ f.countFileMax ∧ n ≤ pBuffer.length ∧ 0 < size ∧ n * size < sizeTRange))
    (log : PathLog ρ) :
    Kept (f.flushToFile io size pBuffer n)
      { s with
        log := log
        rotations := Function.update s.rotations s.session
          (f.flushToFile io size pBuffer n).countRotatingFile
        records :=
          if (f.flushToFile io size pBuffer n).pFile = none then s.records
          else Function.update s.records s.session (s.records s.session ++ pBuffer.take n.toNat) }
      := by
  rcases h.current with hnone | ⟨hopen, hname, hsession, hlog⟩
  · have hsame : f.flushToFile io size pBuffer n = f := by
      rw [LogFile.flushToFile, if_pos hnone]
    rw [hsame, if_pos hnone, ← h.session, Function.update_eq_self]
    exact ⟨Or.inl hnone, h.session, h.bounded, h.kept⟩
  have hne : f.pFile ≠ none := by
    rw [hopen.pFile]
    exact Option.some_ne_none _
  obtain ⟨hcloses, hnumber, h0, hmax, hlen, hsize, hfit⟩ := hok.resolve_left hne
  have hgrows := LogFile.Grows.flushToFile (Or.inr hopen.pFile) hcloses size pBuffer n
    fun _ hrenames hfill => (hnumber hrenames).hasNumber hopen hfill
  have hadded : (f.flushToFile io size pBuffer n).pFile = none ∨
      (f.flushToFile io size pBuffer n).Open ∧
        (f.flushToFile io size pBuffer n).logContents = f.logContents ++ pBuffer.take n.toNat :=
    flushToFile_added hopen h0 hmax hlen hsize hfit hnumber
  generalize f.flushToFile io size pBuffer n = g at *
  have hback : g.readBack s.session g.countRotatingFile = g.logContents := by
    rw [← hname, ← hgrows.filename]
    rfl
  -- the files of the other names are as they were
  have hothers : ∀ b ∈ s.opened, b ≠ s.session → s.records b <+: g.readBack b (s.rotations b) := by
    intro b hb hother
    rw [LogFile.readBack_congr (f := f) fun n hn => hgrows.others n ?_]
    · exact h.kept b hb
    · rw [hn, hname]
      exact hother
  have hcount : f.countRotatingFile ≤ intMax := by
    rw [← h.session]
    exact h.bounded _ hsession
  have hbounded : ∀ b ∈ s.opened,
      Function.update s.rotations s.session g.countRotatingFile b ≤ intMax := by
    intro b hb
    by_cases hb' : b = s.session
    · subst hb'
      rw [Function.update_self]
      exact hgrows.bounded hcount
    · rw [Function.update_of_ne hb']
      exact h.bounded b hb
  rcases hadded with hclosed | ⟨hopen', hlog'⟩
  · rw [if_pos hclosed]
    refine ⟨Or.inl hclosed, Function.update_self .., hbounded, ?_⟩
    intro b hb
    by_cases hb' : b = s.session
    · subst hb'
      dsimp only
      rw [Function.update_self, hback, ← hlog]
      exact hgrows.contents
    · dsimp only
      rw [Function.update_of_ne hb']
      exact hothers b hb hb'
  · have hne' : ¬ g.pFile = none := by
      rw [hopen'.pFile]
      exact Option.some_ne_none _
    rw [if_neg hne']
    refine ⟨Or.inr ⟨hopen', hgrows.filename.trans hname, hsession, ?_⟩, Function.update_self ..,
      hbounded, ?_⟩
    · dsimp only
      rw [Function.update_self, hlog', hlog]
    · intro b hb
      by_cases hb' : b = s.session
      · subst hb'
        dsimp only
        rw [Function.update_self, Function.update_self, hback, hlog', hlog]
      · dsimp only
        rw [Function.update_of_ne hb', Function.update_of_ne hb']
        exact hothers b hb hb'

/-- The step lemma: the directory stays the one of the model by names, and keeps the records. -/
theorem kept_step (hsep : Separated names) (hshows : Shows names f s.log) (h : Kept f s)
    {c : FileCall ρ} (hok : s.Regular names c) (hstep : s.step c = some t) :
    Shows names (f.after c) t.log ∧ Kept (f.after c) t := by
  cases c with
  | openFile io filename recordPerFile =>
    obtain ⟨hname, hnew, hr, hfclose⟩ := hok
    obtain ⟨hret, hshows'⟩ := hshows.openFile hsep hname io recordPerFile
    have hkept : Kept (f.openFile io filename recordPerFile).2 _ :=
      kept_openFile h hnew hr hfclose (s.log.openFile io filename recordPerFile).2
    simp only [step, hret] at hstep
    split at hstep
    · rename_i hdone
      cases hstep
      rw [if_pos hdone] at hkept
      exact ⟨hshows', hkept⟩
    · rename_i hfailed
      cases hstep
      rw [if_neg hfailed] at hkept
      exact ⟨hshows', hkept⟩
  | flushToFile io size pBuffer n =>
    have hok' := hok.imp_left hshows.pFile_none_iff.mp
    rw [hshows.countFileMax, hshows.canNumber_iff] at hok'
    have hshows' := hshows.flushToFile hsep io size pBuffer n fun hne hrenames hfill =>
      ((hok'.resolve_left hne).2.1 hrenames).hasNumber (h.current.resolve_left hne).1 hfill
    have hkept : Kept (f.flushToFile io size pBuffer n) _ :=
      kept_flushToFile h hok' (s.log.flushToFile io size pBuffer n)
    rw [← hshows'.countRotatingFile] at hkept
    simp only [← hshows'.pFile_none_iff] at hkept
    cases hstep
    exact ⟨hshows', hkept⟩
  | close fclose =>
    cases hok
    cases hstep
    exact ⟨(hshows.close hsep .done).2, kept_close h _⟩

theorem opened_named (h : ∀ b ∈ s.opened, names b) {c : FileCall ρ} (hok : s.Regular names c)
    (hstep : s.step c = some t) : ∀ b ∈ t.opened, names b := by
  cases c with
  | openFile io filename recordPerFile =>
    simp only [step] at hstep
    split at hstep
    · cases hstep
      intro b hb
      rcases List.mem_cons.mp hb with rfl | hb
      · exact hok.1
      · exact h b hb
    · cases hstep
      exact h
  | flushToFile | close =>
    cases hstep
    exact h

theorem kept_run (hsep : Separated names) (hshows : Shows names f s.log) (h : Kept f s)
    (hopened : ∀ b ∈ s.opened, names b) {calls : List (FileCall ρ)}
    (hok : Runs.Guarded step (Regular names) s calls) (hrun : Runs.run step s calls = some t) :
    (∀ b ∈ t.opened, names b) ∧ ∃ g, Shows names g t.log ∧ Kept g t := by
  refine Runs.Guarded.invariant (I := fun s => (∀ b ∈ s.opened, names b) ∧
    ∃ g, Shows names g s.log ∧ Kept g s) ?_ hok hrun ⟨hopened, f, hshows, h⟩
  rintro s c u ⟨hopened, g, hg, hkept⟩ hc hu
  exact ⟨opened_named hopened hc hu, g.after c, kept_step hsep hg hkept hc hu⟩

/-- The model by names of a directory with no open file. -/
def named (log : PathLog ρ) : LogFile ρ :=
  ⟨String.ofList log.filename, none, log.stream, fun n => log.files n.path, log.countRotatingFile,
    log.countFileMax, log.countFile⟩

theorem named_shows {log : PathLog ρ} (hclosed : log.pFile = none) :
    Shows names (named log) log :=
  ⟨by simp [named], hclosed, rfl, Or.inl rfl, fun _ _ => rfl, rfl, rfl, rfl⟩

theorem start_kept {log : PathLog ρ} (hshows : Shows names f log) (hclosed : f.pFile = none) :
    Kept f (start log) :=
  ⟨Or.inl hclosed, hshows.countRotatingFile, fun _ hb => absurd hb List.not_mem_nil,
    fun _ hb => absurd hb List.not_mem_nil⟩

/-- What has been flushed can be read back from the directory, for every session so far. -/
def Whole (s : Archive ρ) : Prop :=
  ∀ b ∈ s.opened, s.records b <+: s.log.readBack b (s.rotations b)

theorem whole_of_separated (hsep : Separated names) {log : PathLog ρ} (hclosed : log.pFile = none)
    {calls : List (FileCall ρ)} (hok : Runs.Guarded step (Regular names) (start log) calls)
    (hrun : Runs.run step (start log) calls = some t) : t.Whole := by
  have hnamed : Shows names (named log) log := named_shows hclosed
  obtain ⟨hopened, g, hshows, hkept⟩ := kept_run hsep hnamed (start_kept hnamed rfl)
    (fun _ hb => absurd hb List.not_mem_nil) hok hrun
  intro b hb
  rw [hshows.readBack hsep (hopened b hb) (hkept.bounded b hb)]
  exact hkept.kept b hb

theorem separated_one (b : String) : Separated (· = b) := by
  rintro _ _ rfl rfl i - - h
  have hlength := congrArg List.length h
  simp [FileName.path] at hlength

/-- A session with one record in each file, behind `m` flushes. -/
structure Filled (b : String) (r : ρ) (m : Nat) (f : LogFile ρ) (s : Archive ρ) : Prop where
  shows : Shows (· = b) f s.log
  kept : Kept f s
  isOpen : f.Open
  fileMax : f.countFileMax = 1
  opened : s.opened = [b]
  session : s.session = b
  records : s.records b = List.replicate m r

def empty : PathLog ρ := ⟨[], none, [], fun _ => none, 0, 0, 0⟩

theorem filled_zero {b : String} (r : ρ) (hb : names b) :
    ∃ f t, Runs.Reach step (Regular names) t (start empty) ∧ Filled b r 0 f t := by
  have hreg : ∀ names : String → Prop, names b →
      (start (ρ := ρ) empty).Regular names (.openFile {} b 1) := fun _ hb =>
    ⟨hb, List.not_mem_nil, by decide, rfl⟩
  have hstep : step (start (ρ := ρ) empty) (.openFile {} b 1) = some _ := rfl
  have hnamed : Shows (· = b) (named (ρ := ρ) empty) empty := named_shows rfl
  obtain ⟨hshows, hkept⟩ := kept_step (separated_one b) hnamed (start_kept hnamed rfl) (hreg _ rfl)
    hstep
  have hopen := (hkept.current.resolve_left (Option.some_ne_none _)).1
  exact ⟨_, _, .head (hreg names hb) hstep .refl, hshows, hkept, hopen, rfl, rfl, rfl,
    Function.update_self ..⟩

theorem length_flatMap_range {k : Nat} {files : Nat → List ρ} (h : ∀ i < k, (files i).length = 1) :
    ((List.range k).flatMap files).length = k := by
  induction k with
  | zero => rfl
  | succ k ih =>
    rw [List.range_succ, List.flatMap_append, List.flatMap_singleton, List.length_append,
      ih fun i hi => h i (Nat.lt_succ_of_lt hi), h k (Nat.lt_succ_self k)]

section
variable {b c : String} {r : ρ} {m : Nat}

theorem Filled.current (h : Filled b r m f s) :
    f.filename = b ∧ f.logContents = List.replicate m r := by
  obtain ⟨hname, -, hlog⟩ := (h.kept.current.resolve_left
    (by rw [h.isOpen.pFile]; exact Option.some_ne_none _)).2
  refine ⟨hname.trans h.session, ?_⟩
  rw [hlog, h.session, h.records]

theorem Filled.rotated_length (h : Filled b r m f s) {i : Nat}
    (hi : (i : Int) < f.countRotatingFile) : (f.contents ⟨b, some i⟩).length = 1 := by
  have hlength := h.isOpen.rotated_length i hi
  rw [h.fileMax, LogFile.rotated, h.current.1] at hlength
  omega

theorem Filled.countFile (h : Filled b r m f s) : f.countFile = 0 := by
  have hnonneg := h.isOpen.count_nonneg
  have hlt := h.isOpen.count_lt
  rw [h.fileMax] at hlt
  omega

theorem Filled.current_nil (h : Filled b r m f s) : f.contents ⟨b, none⟩ = [] := by
  have hlength := h.isOpen.current_length
  rw [LogFile.current, h.current.1, h.countFile] at hlength
  apply List.length_eq_zero_iff.mp
  omega

theorem Filled.countRotatingFile (h : Filled b r m f s) : f.countRotatingFile = m := by
  have hnonneg := h.isOpen.rotating_nonneg
  have hlength := congrArg List.length h.current.2
  rw [List.length_replicate, ← LogFile.readBack_current, h.current.1, LogFile.readBack,
    h.current_nil, List.append_nil,
    length_flatMap_range fun i hi => h.rotated_length (by omega)] at hlength
  omega

theorem Filled.canNumber (h : Filled b r m f s) (hm : (m : Int) < intMax) : f.CanNumber 1 := by
  unfold intMax at hm
  rw [LogFile.CanNumber, LogFile.total, h.countRotatingFile, h.countFile, h.fileMax]
  omega

theorem filled_succ (names : String → Prop) (h : Filled b r m f s) (hm : (m : Int) < intMax) :
    ∃ g t, Runs.Reach step (Regular names) t s ∧ Filled b r (m + 1) g t := by
  have hfit : (1 : Int) * (1 : Nat) < sizeTRange := by decide
  have hnumber := h.canNumber hm
  have hreg : ∀ names : String → Prop, s.Regular names (.flushToFile {} 1 [r] 1) := by
    intro names
    refine Or.inr ⟨by decide, fun _ => h.shows.canNumber_iff.mpr hnumber, by decide, ?_, by simp,
      by decide, hfit⟩
    rw [h.shows.countFileMax, h.fileMax]
  have hstep : step s (.flushToFile {} 1 [r] 1) = some _ := rfl
  obtain ⟨hshows, hkept⟩ := kept_step (separated_one b) h.shows h.kept (hreg _) hstep
  rcases LogFile.flushToFile_cases {} 1 [r] 1 h.isOpen (by decide) (by rw [h.fileMax]) (by simp)
    (by decide) hfit (fun _ => hnumber) with ⟨-, hbad⟩ | ⟨hopen, -, hmax, -⟩
  · exact absurd (by decide) hbad
  refine ⟨_, _, .head (hreg names) hstep .refl, hshows, hkept, hopen, hmax.trans h.fileMax,
    h.opened, h.session, ?_⟩
  have hne : ¬ (s.log.flushToFile {} 1 [r] 1).pFile = none := by
    intro hnone
    have hclosed := hshows.pFile_none_iff.mp hnone
    exact absurd (hclosed.symm.trans hopen.pFile) (Option.some_ne_none _).symm
  dsimp only
  rw [if_neg hne, h.session, Function.update_self, h.records, List.replicate_succ']
  rfl

theorem exists_filled (r : ρ) (hb : names b) {m : Nat} (hm : m ≤ intMax) :
    ∃ f t, Runs.Reach step (Regular names) t (start empty) ∧ Filled b r m f t := by
  induction m with
  | zero => exact filled_zero r hb
  | succ m ih =>
    have hlt : (m : Int) < intMax := by omega
    obtain ⟨f, s, hreach, hfilled⟩ := ih (Int.le_of_lt hlt)
    obtain ⟨g, t, hlast, hfilled'⟩ := filled_succ names hfilled hlt
    exact ⟨g, t, hreach.trans hlast, hfilled'⟩

theorem close_done (g : PathLog ρ) : (g.close .done).1 = 0 ∧
    ∀ p, ((g.close .done).2.files p).getD [] = g.contents p := by
  cases hg : g.pFile with
  | none => simp [PathLog.close, PathLog.contents, hg]
  | some q =>
    simp only [PathLog.close, PathLog.contents, hg]
    refine ⟨rfl, fun p => ?_⟩
    by_cases hpq : p = q
    · subst hpq
      simp [CloseResult.written]
    · simp [hpq, Ne.symm hpq]

/-- A new session takes its name from the file that has it. -/
theorem openFile_contents (g : PathLog ρ) (n : Int) : (g.openFile {} c n).1 = 0 ∧
    ∀ p, (g.openFile {} c n).2.contents p = if p = c.toList then [] else g.contents p := by
  obtain ⟨hret, hclose⟩ := close_done g
  simp only [PathLog.openFile, hret]
  refine ⟨rfl, fun p => ?_⟩
  by_cases hp : p = c.toList
  · subst hp
    simp [PathLog.contents, PathLog.fopen]
  · rw [if_neg hp, ← hclose]
    simp [PathLog.contents, PathLog.fopen, hp, Ne.symm hp]

/-- A session whose name is that of a rotated file takes it from the session it belongs to. -/
theorem not_whole_of_clash (hb : names b) (hc : names c) {i : Nat} (hi : (i : Int) < intMax)
    (hclash : c.toList = (FileName.mk b (some i)).path) (r : ρ) :
    ∃ calls t, Runs.Guarded step (Regular names) (start (ρ := ρ) empty) calls ∧
      Runs.run step (start empty) calls = some t ∧ ¬ t.Whole := by
  obtain ⟨f, s, hreach, hfilled⟩ := exists_filled r hb (m := i + 1) hi
  have hsep := separated_one b
  have hne : b ≠ c := by
    rintro rfl
    exact hsep b b rfl rfl i (Int.natCast_nonneg i) hi hclash
  obtain ⟨hret, hopened⟩ := openFile_contents (c := c) s.log 1
  have hstep : s.step (.openFile {} c 1) = some ⟨(s.log.openFile {} c 1).2, c :: s.opened, c,
      Function.update s.rotations c 0, Function.update s.records c []⟩ := if_pos hret
  have hregular : s.Regular names (.openFile {} c 1) := by
    refine ⟨hc, ?_, by decide, rfl⟩
    rw [hfilled.opened]
    exact fun hmem => hne (List.mem_singleton.mp hmem).symm
  obtain ⟨calls, hguard, hrun⟩ := (hreach.trans (.head hregular hstep .refl)).run
  refine ⟨calls, _, hguard, hrun, ?_⟩
  intro hwhole
  have hlength := (hwhole b (by rw [hfilled.opened]; simp)).length_le
  have hrotations : (s.rotations b).toNat = i + 1 := by
    rw [← hfilled.session, hfilled.kept.session, hfilled.countRotatingFile]
    rfl
  have hcontents : ∀ n : FileName, n.Of (· = b) → n.path ≠ c.toList →
      (s.log.openFile {} c 1).2.contents n.path = f.contents n := by
    intro n hn hpath
    rw [hopened, if_neg hpath]
    exact hfilled.shows.contents hsep hn
  have hcurrent : (s.log.openFile {} c 1).2.contents (FileName.mk b none).path = [] := by
    rw [hcontents ⟨b, none⟩ ⟨rfl, fun _ hi => by cases hi⟩, hfilled.current_nil]
    exact fun hpath => hne (String.toList_inj.mp hpath)
  have hlost : (s.log.openFile {} c 1).2.contents (FileName.mk b (some i)).path = [] := by
    rw [hopened, if_pos hclash.symm]
  have hrest : ∀ j < i,
      ((s.log.openFile {} c 1).2.contents (FileName.mk b (some j)).path).length = 1 := by
    intro j hj
    rw [hcontents ⟨b, some j⟩]
    · apply hfilled.rotated_length
      rw [hfilled.countRotatingFile]
      omega
    · refine ⟨rfl, fun k hk => ?_⟩
      cases hk
      omega
    · intro hpath
      have hsame := (FileName.path_rotated_inj (hpath.trans hclash)).2
      omega
  dsimp only at hlength
  rw [Function.update_of_ne hne, Function.update_of_ne hne, hfilled.records, List.length_replicate,
    PathLog.readBack, hrotations, List.range_succ, List.flatMap_append, List.flatMap_singleton,
    hlost, hcurrent, List.append_nil, List.append_nil, length_flatMap_range hrest] at hlength
  exact absurd hlength (by simp)

end

end

end Archive

end HexrotPxiCom.LogTlm
