import HexrotPxiCom.LogTlm.Sequential
import Mathlib.Data.List.TakeDrop

/-!
# What a flush reports and what it does

`logTlm_flushToFile` returns nothing, so `logTlm_flush` cannot tell whether the pending records
reached the log files. The log files after a flush are given for every answer of stdio; what is
still in the open stream counts as written.
-/

namespace HexrotPxiCom.LogTlm

set_option autoImplicit false

universe u
variable {ρ : Type u}

/-- All `n` records of a stream get into the file, even if its `fclose` reports an error. -/
def CloseResult.Whole (r : CloseResult) (n : Nat) : Prop :=
  match r with
  | .done => True
  | .failed kept => n ≤ kept

instance (n : Nat) : ∀ r : CloseResult, Decidable (r.Whole n)
  | .done => .isTrue trivial
  | .failed kept => inferInstanceAs (Decidable (n ≤ kept))

/-- All `n` records of one `fwrite` are in the log, even if it reports an error and the stream,
with `before` records in front of them, is closed. -/
def WriteResult.Whole (r : WriteResult) (fclose : CloseResult) (before n : Nat) : Prop :=
  match r with
  | .full => True
  | .short k => n ≤ k ∧ fclose.Whole (before + n)

instance (c : CloseResult) (m n : Nat) : ∀ r : WriteResult, Decidable (r.Whole c m n)
  | .full => .isTrue trivial
  | .short k => inferInstanceAs (Decidable (n ≤ k ∧ c.Whole (m + n)))

theorem CloseResult.written_length_le (r : CloseResult) (stream : List ρ) :
    (r.written stream).length ≤ stream.length := by
  cases r with
  | done => exact Nat.le_refl _
  | failed kept => exact List.length_take_le' kept stream

theorem CloseResult.written_eq_iff (r : CloseResult) (stream : List ρ) :
    r.written stream = stream ↔ r.Whole stream.length := by
  cases r with
  | done => exact ⟨fun _ => trivial, fun _ => rfl⟩
  | failed kept => exact List.take_eq_self_iff stream

/-- The end of a stream gets into the file only if all of it does. -/
theorem CloseResult.written_take_iff (r : CloseResult) (stream rs : List ρ) (k : Nat) :
    r.written (stream ++ rs.take k) = stream ++ rs ↔
      rs.length ≤ k ∧ r.Whole (stream.length + rs.length) := by
  rw [← List.length_append, ← r.written_eq_iff]
  constructor
  · intro h
    have hlength := r.written_length_le (stream ++ rs.take k)
    rw [h, List.length_append, List.length_append, List.length_take] at hlength
    have hk : rs.length ≤ k := by omega
    rw [List.take_of_length_le hk] at h
    exact ⟨hk, h⟩
  · rintro ⟨hk, h⟩
    rw [List.take_of_length_le hk]
    exact h

namespace LogFile

/-- The answers of stdio with which a rotation keeps the log, when the stream holds `n` records. -/
def RotateKeeps (io : Stdio) (n : Nat) (f : LogFile ρ) : Prop :=
  io.fclose.Whole n ∧ (io.fclose = .done → io.rename = true → f.HasNumber)

instance (io : Stdio) (n : Nat) (f : LogFile ρ) : Decidable (f.RotateKeeps io n) :=
  inferInstanceAs (Decidable (_ ∧ (_ → _ → _)))

/-- The answers of stdio with which `n` records get to the log files. -/
def WritesAll (io : Stdio) (n : Int) (f : LogFile ρ) : Prop :=
  let space := f.countFileMax - f.countFile
  if n ≤ space then
    io.fwrite.Whole io.fcloseError f.stream.length n.toNat ∧
      (n = space → io.fwrite = .full → f.RotateKeeps io (f.stream.length + n.toNat))
  else (io.Renames ∧ io.fopen = true ∧ f.HasNumber) ∧
    io.fwriteLeft.Whole io.fcloseError 0 (n - space).toNat

instance (io : Stdio) (n : Int) (f : LogFile ρ) : Decidable (f.WritesAll io n) :=
  inferInstanceAs (Decidable (if n ≤ f.countFileMax - f.countFile then _ else _))

variable {f g : LogFile ρ}

theorem logContents_congr (hname : g.filename = f.filename)
    (hcount : g.countRotatingFile = f.countRotatingFile)
    (hcontents : ∀ n, g.contents n = f.contents n) : g.logContents = f.logContents := by
  unfold logContents rotatedContents current rotated
  rw [hname, hcount]
  simp only [hcontents]

/-- The log is the rotated files, what was in the current one and the stream. -/
theorem logContents_stream (hf : f.pFile = some f.current) :
    f.logContents = f.rotatedContents ++ (f.disk f.current).getD [] ++ f.stream := by
  rw [logContents, contents, if_pos hf, List.append_assoc]

theorem close_logContents (hf : f.pFile = some f.current) (c : CloseResult) :
    (f.close c).2.logContents =
      f.rotatedContents ++ (f.disk f.current).getD [] ++ c.written f.stream := by
  have hrot : (f.close c).2.rotatedContents = f.rotatedContents := by
    simp [rotatedContents, close, hf, contents, rotated, current]
  have hcur : (f.close c).2.contents f.current =
      (f.disk f.current).getD [] ++ c.written f.stream := by
    simp [close, hf, contents]
  have hname : (f.close c).2.current = f.current := by simp [current]
  rw [logContents, hrot, hname, hcur, List.append_assoc]

theorem close_none (hf : f.pFile = none) (c : CloseResult) : f.close c = (0, f) := by
  simp [close, hf]

theorem close_logContents_iff (hf : f.pFile = some f.current) (c : CloseResult) :
    (f.close c).2.logContents = f.logContents ↔ c.Whole f.stream.length := by
  rw [close_logContents hf, logContents_stream hf, List.append_right_inj, c.written_eq_iff]

theorem close_logContents_length (hf : f.pFile = some f.current) (c : CloseResult) :
    (f.close c).2.logContents.length ≤ f.logContents.length := by
  have hle := c.written_length_le f.stream
  rw [close_logContents hf, logContents_stream hf]
  simp only [List.length_append]
  omega

theorem writeToFile_short (k : Nat) (c : CloseResult) {size : Nat} (rs : List ρ)
    (hsize : size ≠ 0) :
    (f.writeToFile (.short k) c size rs).2 = ((f.append (rs.take k)).close c).2 := by
  simp [writeToFile, fwrite, hsize]

/-- The records of one `logTlm_writeToFile` are all in the log exactly for these answers. -/
theorem writeToFile_logContents_iff (hf : f.pFile = some f.current) (r : WriteResult)
    (c : CloseResult) {size : Nat} (rs : List ρ) (hsize : size ≠ 0) :
    (f.writeToFile r c size rs).2.logContents = f.logContents ++ rs ↔
      r.Whole c f.stream.length rs.length := by
  cases r with
  | full =>
    have hw : f.writeToFile .full c size rs = (0, f.append rs) := by
      simp [writeToFile, fwrite, hsize]
    rw [hw]
    exact ⟨fun _ => trivial, fun _ => append_logContents hf rs⟩
  | short k =>
    rw [writeToFile_short k c rs hsize, close_logContents (f := f.append (rs.take k)) hf,
      logContents_stream hf]
    have hrot : (f.append (rs.take k)).rotatedContents = f.rotatedContents := by
      simp [rotatedContents, append, contents, hf, rotated, current]
    rw [hrot, List.append_assoc _ f.stream, append_current, append_disk, List.append_right_inj]
    exact c.written_take_iff f.stream rs k

theorem writeToFile_logContents_length (hf : f.pFile = some f.current) (r : WriteResult)
    (c : CloseResult) (size : Nat) (rs : List ρ) :
    (f.writeToFile r c size rs).2.logContents.length ≤ f.logContents.length + rs.length := by
  by_cases hsize : size = 0
  · have hw : (f.writeToFile r c size rs).2 = (f.close c).2 := by
      simp [writeToFile, fwrite, hsize]
    rw [hw]
    exact Nat.le_trans (close_logContents_length hf c) (Nat.le_add_right _ _)
  cases r with
  | full =>
    have hw : f.writeToFile .full c size rs = (0, f.append rs) := by
      simp [writeToFile, fwrite, hsize]
    have hlength : (f.append rs).logContents.length = f.logContents.length + rs.length := by
      rw [append_logContents hf, List.length_append]
    rw [hw]
    exact Nat.le_of_eq hlength
  | short k =>
    have hopen : (f.append (rs.take k)).pFile = some (f.append (rs.take k)).current := hf
    have hclose := close_logContents_length hopen c
    rw [append_logContents hf, List.length_append, List.length_take] at hclose
    rw [writeToFile_short k c rs hsize]
    omega

/-- Without a number for the rotated file, none of the records is counted any more. -/
theorem rotateTo_logContents_lost (h : ¬ f.HasNumber) : f.rotateTo.logContents = [] := by
  have hcount : f.rotateTo.countRotatingFile.toNat = 0 := by
    rw [rotateTo_countRotatingFile]
    unfold HasNumber at h
    unfold intSucc
    split <;> omega
  have hcur : f.rotateTo.contents f.rotateTo.current = [] := by
    rw [rotateTo_current, rotateTo_contents_current]
  rw [logContents, rotatedContents, hcount, hcur]
  rfl

theorem rotateTo_logContents_iff (hne : f.logContents ≠ []) :
    f.rotateTo.logContents = f.logContents ↔ f.HasNumber := by
  constructor
  · intro h
    by_contra hno
    rw [rotateTo_logContents_lost hno] at h
    exact hne h.symm
  · intro h
    exact rotateTo_logContents h

/-- The log after a rotation, whatever part of it fails. -/
theorem rotateFile_logContents (hf : f.pFile = some f.current) (io : Stdio) :
    (f.rotateFile io).2.logContents =
      if io.fclose = .done ∧ io.rename = true then f.rotateTo.logContents
      else (f.close io.fclose).2.logContents := by
  have hstatus := close_status hf io.fclose
  cases hclose : io.fclose with
  | failed kept =>
    rw [hclose] at hstatus
    simp [rotateFile, hclose, hstatus, CloseResult.status]
  | done =>
    rw [hclose] at hstatus
    cases hrename : io.rename with
    | false => simp [rotateFile, hclose, hrename, hstatus, CloseResult.status]
    | true =>
      rw [if_pos ⟨rfl, rfl⟩]
      cases hopen : io.fopen with
      | true => simp [rotateFile, hclose, hrename, hopen, hstatus, CloseResult.status, rotateTo]
      | false =>
        have hr : (f.rotateFile io).2 = { (f.close .done).2 with
            disk := (f.close .done).2.renameCurrent
            countRotatingFile := intSucc (f.close .done).2.countRotatingFile } := by
          simp [rotateFile, hclose, hrename, hopen, hstatus, CloseResult.status]
        rw [hr]
        refine logContents_congr ?_ ?_ fun n => ?_
        · simp
        · simp
        -- the file that is not opened again reads as empty
        · by_cases hn : n = f.current
          · subst hn
            simp [rotateTo, LogFile.fopen, contents, renameCurrent, current, close_pFile]
          · have hne : n ≠ ⟨f.filename, none⟩ := hn
            simp [rotateTo, LogFile.fopen, contents, current, close_pFile, hne, hne.symm]

theorem rotateFile_logContents_iff (hf : f.pFile = some f.current) (io : Stdio)
    (hne : f.logContents ≠ []) :
    (f.rotateFile io).2.logContents = f.logContents ↔ f.RotateKeeps io f.stream.length := by
  rw [rotateFile_logContents hf]
  unfold RotateKeeps
  cases hclose : io.fclose with
  | failed kept =>
    rw [if_neg (by simp), close_logContents_iff hf]
    simp
  | done =>
    cases hrename : io.rename with
    | false =>
      rw [if_neg (by simp), close_logContents_iff hf]
      simp
    | true =>
      rw [if_pos ⟨rfl, rfl⟩, rotateTo_logContents_iff hne]
      simp [CloseResult.Whole]

theorem rotateFile_logContents_length (hf : f.pFile = some f.current) (io : Stdio) :
    (f.rotateFile io).2.logContents.length ≤ f.logContents.length := by
  rw [rotateFile_logContents hf]
  split
  · by_cases hnumber : f.HasNumber
    · exact Nat.le_of_eq (congrArg List.length (rotateTo_logContents hnumber))
    · rw [rotateTo_logContents_lost hnumber]
      exact Nat.zero_le _
  · exact close_logContents_length hf io.fclose

/-- The last test of `logTlm_flushToFile` closes the file or counts, and keeps the log: a file whose
write or rotation failed is closed already. -/
theorem end_logContents {l : Int × LogFile ρ} (hl : l.1 = -1 → l.2.pFile = none) (r : CloseResult)
    (c : Int) :
    LogFile.logContents (if l.1 = -1 then (l.2.close r).2 else { l.2 with countFile := c }) =
      l.2.logContents := by
  split
  · rename_i hfailed
    rw [close_none (hl hfailed)]
  · rfl

section
variable (io : Stdio) (size : Nat) (pBuffer : List ρ) {n : Int}

theorem flushToFile_logContents_le (hf : f.pFile = some f.current) (hsize : sizeT (n * size) ≠ 0)
    (hle : n ≤ f.countFileMax - f.countFile) :
    (f.flushToFile io size pBuffer n).logContents =
      if io.fwrite = .full ∧ n = f.countFileMax - f.countFile then
        ((f.append (pBuffer.take n.toNat)).rotateFile io).2.logContents
      else (f.writeToFile io.fwrite io.fcloseError (sizeT (n * size))
        (pBuffer.take n.toNat)).2.logContents := by
  have hopen : (f.append (pBuffer.take n.toNat)).pFile = some f.current := hf
  unfold flushToFile
  rw [if_neg (by simp [hf])]
  simp only [decide_eq_true hle, if_true, Bool.not_true, Bool.false_and, Bool.false_eq_true,
    if_false, eq_comm (a := f.countFileMax - f.countFile)]
  rcases writeToFile_cases f io.fwrite io.fcloseError (pBuffer.take n.toNat) hsize with
    ⟨hfull, hw⟩ | ⟨hshort, hbad, hclosed⟩
  · rw [hw]
    simp only [hfull, true_and]
    by_cases heq : n = f.countFileMax - f.countFile
    · simp only [if_pos heq]
      apply end_logContents
      intro hfailed
      rcases rotateFile_cases _ io hopen with ⟨-, hrot⟩ | ⟨-, -, hnone⟩
      · rw [hrot] at hfailed
        cases hfailed
      · exact hnone
    · simp only [if_neg heq]
      exact end_logContents (l := (0, f.append (pBuffer.take n.toNat))) (fun h => by cases h) _ _
  · have hne : ¬ (-1 : Int) = 0 := by decide
    simp only [hbad, hne, hshort, false_and, if_false]
    rw [if_pos trivial, close_none hclosed]

/-- A flush beyond the end of the current file: the rest is written only behind a rotation. -/
theorem flushToFile_logContents_gt (hf : f.pFile = some f.current)
    (hsize : sizeT ((f.countFileMax - f.countFile) * size) ≠ 0)
    (hgt : f.countFileMax - f.countFile < n) :
    (f.flushToFile io size pBuffer n).logContents =
      let w := f.writeToFile io.fwrite io.fcloseError
        (sizeT ((f.countFileMax - f.countFile) * size))
        (pBuffer.take (f.countFileMax - f.countFile).toNat)
      if io.fwrite = .full then
        if io.fclose = .done ∧ io.rename = true ∧ io.fopen = true then
          (w.2.rotateTo.writeToFile io.fwriteLeft io.fcloseError
            (sizeT ((n - (f.countFileMax - f.countFile)) * size))
            ((pBuffer.drop (f.countFileMax - f.countFile).toNat).take
              (n - (f.countFileMax - f.countFile)).toNat)).2.logContents
        else (w.2.rotateFile io).2.logContents
      else w.2.logContents := by
  have hnot : ¬ n ≤ f.countFileMax - f.countFile := Int.not_le.mpr hgt
  have hopen : (f.append (pBuffer.take (f.countFileMax - f.countFile).toNat)).pFile =
      some f.current := hf
  unfold flushToFile
  rw [if_neg (by simp [hf])]
  simp only [decide_eq_false hnot, Bool.false_eq_true, if_false, Bool.not_false, Bool.true_and,
    and_true, true_and, decide_eq_true_eq]
  rcases writeToFile_cases f io.fwrite io.fcloseError
    (pBuffer.take (f.countFileMax - f.countFile).toNat) hsize
    with ⟨hfull, hw⟩ | ⟨hshort, hbad, hclosed⟩
  · rw [hw, if_pos hfull]
    simp only [if_true, true_and]
    rcases rotateFile_cases _ io hopen with ⟨hok, hrot⟩ | ⟨hfail, hrot, hnone⟩
    · rw [hrot, if_pos hok]
      simp only [if_true]
      apply end_logContents
      intro hfailed
      rcases writeToFile_done (f.append (pBuffer.take
          (f.countFileMax - f.countFile).toNat)).rotateTo io.fwriteLeft io.fcloseError
          (sizeT ((n - (f.countFileMax - f.countFile)) * size))
          ((pBuffer.drop (f.countFileMax - f.countFile).toNat).take
            (n - (f.countFileMax - f.countFile)).toNat) with ⟨-, -, hl⟩ | ⟨-, -, hnone⟩
      · rw [hl] at hfailed
        cases hfailed
      · exact hnone
    · have hne : ¬ (-1 : Int) = 0 := by decide
      rw [if_neg hfail]
      simp only [hrot, hne, if_false]
      rw [if_pos trivial, close_none hnone]
  · have hne : ¬ (-1 : Int) = 0 := by decide
    simp only [hbad, hne, hshort, false_and, if_false]
    rw [if_pos trivial, close_none hclosed]

theorem length_take_toNat {m : Int} (h : m ≤ pBuffer.length) :
    (pBuffer.take m.toNat).length = m.toNat := by
  rw [List.length_take]
  omega

section
variable (hf : f.pFile = some f.current) (hn : 0 < n) (hroom : f.countFile < f.countFileMax)
  (hlen : n ≤ pBuffer.length) (hsize : 0 < size) (hfit : n * size < sizeTRange)
include hf hn hlen hsize hfit

theorem flushToFile_appends_iff_le (hle : n ≤ f.countFileMax - f.countFile) :
    (f.flushToFile io size pBuffer n).logContents = f.logContents ++ pBuffer.take n.toNat ↔
      io.fwrite.Whole io.fcloseError f.stream.length n.toNat ∧
        (n = f.countFileMax - f.countFile → io.fwrite = .full →
          f.RotateKeeps io (f.stream.length + n.toNat)) := by
  have hbytes := sizeT_mul_ne_zero hn hsize hfit
  have htake := length_take_toNat pBuffer hlen
  have hwrites := writeToFile_logContents_iff hf io.fwrite io.fcloseError (pBuffer.take n.toNat)
    hbytes
  rw [htake] at hwrites
  rw [flushToFile_logContents_le io size pBuffer hf hbytes hle]
  split
  · rename_i hrotates
    have hlog := append_logContents hf (pBuffer.take n.toNat)
    have hsome : (f.append (pBuffer.take n.toNat)).logContents ≠ [] := by
      intro hnil
      have hlength := congrArg List.length (hlog.symm.trans hnil)
      rw [List.length_append, htake, List.length_nil] at hlength
      omega
    have hstream : (f.append (pBuffer.take n.toNat)).stream.length =
        f.stream.length + n.toNat := by
      rw [append_stream, List.length_append, htake]
    have hiff := rotateFile_logContents_iff (f := f.append (pBuffer.take n.toNat)) hf io hsome
    rw [hlog, hstream] at hiff
    rw [hiff, hrotates.1]
    exact ⟨fun h => ⟨trivial, fun _ _ => h⟩, fun h => h.2 hrotates.2 rfl⟩
  · rename_i hrests
    rw [hwrites]
    exact ⟨fun h => ⟨h, fun heq hfull => absurd ⟨hfull, heq⟩ hrests⟩, fun h => h.1⟩

include hroom

/-- The records go beyond the end of the current file. -/
theorem flushToFile_appends_iff_gt (hgt : f.countFileMax - f.countFile < n) :
    (f.flushToFile io size pBuffer n).logContents = f.logContents ++ pBuffer.take n.toNat ↔
      (io.Renames ∧ io.fopen = true ∧ f.HasNumber) ∧
        io.fwriteLeft.Whole io.fcloseError 0 (n - (f.countFileMax - f.countFile)).toNat := by
  have hbytes {m : Int} (hm0 : 0 < m) (hm : m ≤ n) : sizeT (m * size) ≠ 0 :=
    sizeT_mul_ne_zero hm0 hsize (mul_lt_sizeTRange hm hfit)
  rw [flushToFile_logContents_gt io size pBuffer hf (hbytes (by omega) (by omega)) hgt]
  dsimp only
  generalize hfirst : pBuffer.take (f.countFileMax - f.countFile).toNat = first
  generalize hrest : (pBuffer.drop (f.countFileMax - f.countFile).toNat).take
    (n - (f.countFileMax - f.countFile)).toNat = rest
  have hsum : n.toNat = (f.countFileMax - f.countFile).toNat +
      (n - (f.countFileMax - f.countFile)).toNat := by omega
  have hlengthFirst : 0 < first.length := by
    rw [← hfirst, length_take_toNat pBuffer (by omega)]
    omega
  have hlengthRest : rest.length = (n - (f.countFileMax - f.countFile)).toNat := by
    rw [← hrest, List.length_take, List.length_drop]
    omega
  have hall : f.logContents ++ pBuffer.take n.toNat = (f.append first).logContents ++ rest := by
    rw [append_logContents hf, hsum, List.take_add, hfirst, hrest, List.append_assoc]
  -- a log without the second part, or without the first one, misses some of the records
  have hmissing (l : List ρ) (hl : l.length ≤ f.logContents.length + first.length ∨
      l.length ≤ rest.length) : l ≠ f.logContents ++ pBuffer.take n.toNat := by
    intro heq
    rw [heq, hall, append_logContents hf, List.length_append, List.length_append] at hl
    omega
  rcases writeToFile_cases f io.fwrite io.fcloseError first
    (hbytes (m := f.countFileMax - f.countFile) (by omega) (by omega)) with
    ⟨hfull, hw⟩ | ⟨hfailed, -⟩
  · rw [if_pos hfull, hw]
    dsimp only
    by_cases hok : io.fclose = .done ∧ io.rename = true ∧ io.fopen = true
    · rw [if_pos hok]
      by_cases hnumber : f.HasNumber
      · have hleft := writeToFile_logContents_iff (f := (f.append first).rotateTo) rotateTo_pFile
          io.fwriteLeft io.fcloseError rest
          (hbytes (m := n - (f.countFileMax - f.countFile)) (by omega) (by omega))
        rw [rotateTo_logContents (f := f.append first) hnumber, ← hall, hlengthRest] at hleft
        rw [hleft]
        exact ⟨fun h => ⟨⟨⟨hfull, hok.1, hok.2.1⟩, hok.2.2, hnumber⟩, h⟩, fun h => h.2⟩
      · have hle := writeToFile_logContents_length (f := (f.append first).rotateTo)
          rotateTo_pFile io.fwriteLeft io.fcloseError
          (sizeT ((n - (f.countFileMax - f.countFile)) * size)) rest
        rw [rotateTo_logContents_lost (f := f.append first) hnumber, List.length_nil,
          Nat.zero_add] at hle
        exact ⟨fun heq => absurd heq (hmissing _ (Or.inr hle)), fun h => absurd h.1.2.2 hnumber⟩
    · rw [if_neg hok]
      have hle := rotateFile_logContents_length (f := f.append first) hf io
      rw [append_logContents hf, List.length_append] at hle
      exact ⟨fun heq => absurd heq (hmissing _ (Or.inl hle)),
        fun h => absurd ⟨h.1.1.2.1, h.1.1.2.2, h.1.2.1⟩ hok⟩
  · rw [if_neg hfailed]
    have hle := writeToFile_logContents_length hf io.fwrite io.fcloseError
      (sizeT ((f.countFileMax - f.countFile) * size)) first
    exact ⟨fun heq => absurd heq (hmissing _ (Or.inl hle)), fun h => absurd h.1.1.1 hfailed⟩

/-- The records of a flush are all in the log files, in order, exactly for these answers. -/
theorem flushToFile_appends_iff :
    (f.flushToFile io size pBuffer n).logContents = f.logContents ++ pBuffer.take n.toNat ↔
      f.WritesAll io n := by
  unfold WritesAll
  dsimp only
  split
  · rename_i hle
    exact flushToFile_appends_iff_le io size pBuffer hf hn hlen hsize hfit hle
  · rename_i hgt
    exact flushToFile_appends_iff_gt io size pBuffer hf hn hroom hlen hsize hfit
      (Int.not_le.mp hgt)

end

/-- A flush of nothing closes the file, unless the count is beyond the end of the file, when it
may rotate. -/
theorem flushToFile_nothing (hf : f.pFile ≠ none) :
    (f.flushToFile io size pBuffer 0).pFile = none ∨
      (f.flushToFile io size pBuffer 0).countRotatingFile = intSucc f.countRotatingFile := by
  have hz : sizeT (0 * size) = 0 := by
    rw [Int.zero_mul]
    rfl
  generalize hg : f.flushToFile io size pBuffer 0 = g
  have hflushed := flushToFile_flushed io size pBuffer 0 hf
  rw [hg] at hflushed
  cases hflushed with
  | closed g hclosed => exact Or.inl hclosed
  | short hsize | boundary hsize => exact absurd hz hsize
  | across hgt =>
    apply Or.inr
    simp

end

end LogFile

open State

section
variable {s : State ρ} {env : Env}

/-- The records that a flush has to write. -/
def State.pending (s : State ρ) : List ρ :=
  (s.cellsAt s.pBufferCurrent).take s.countBufferCurrent.toNat

/-- The log is open and records are pending; the buffer has a slot for each of them. -/
structure Pending (s : State ρ) : Prop where
  opened : s.file.pFile = some s.file.current
  count_pos : 1 ≤ s.countBufferCurrent
  count_le : s.countBufferCurrent ≤ s.countBufferMax
  max_le : s.countBufferMax ≤ s.file.countFileMax
  file_nonneg : 0 ≤ s.file.countFile
  file_lt : s.file.countFile < s.file.countFileMax
  size_pos : 0 < s.sizeElementInBuffer
  fits : s.countBufferMax * s.sizeElementInBuffer < sizeTRange
  slots : ∀ p, s.pBufferCurrent = some p → s.countBufferCurrent ≤ (s.heap p).cells.length

/-- The states of a session without the thread are such states. -/
theorem Holds.pending {n recordPerFile : Int} {size : Nat} {acc : List ρ}
    (h : Holds n size recordPerFile s acc) (hbuffer : s.pBufferCurrent ≠ none)
    (hpos : 1 ≤ s.countBufferCurrent) : Pending s := by
  obtain ⟨p, hp⟩ := Option.ne_none_iff_exists'.mp hbuffer
  obtain ⟨-, hfit⟩ := h.cells_length hp
  have hmax := h.allocated.countBufferMax
  refine ⟨h.opened.pFile, hpos, ?_, ?_, h.opened.count_nonneg, h.opened.count_lt, ?_, ?_, ?_⟩
  · rw [hmax]
    exact h.count_le
  · rw [hmax, h.fileMax]
    exact h.n_le
  · rw [h.allocated.sizeElement]
    exact h.allocated.size_pos
  · rw [hmax, h.allocated.sizeElement]
    exact hfit
  · intro q hq
    rw [(h.cells_length hq).1]
    exact h.count_le

/-- 0 is returned only if all pending records are in the log files, in order, and -1 if they are
not. -/
def FlushHonest (env : Env) (s : State ρ) : Prop :=
  ((s.flush env).1 = 0 → (s.flush env).2.file.logContents = s.file.logContents ++ s.pending) ∧
    ((s.flush env).2.file.logContents ≠ s.file.logContents ++ s.pending → (s.flush env).1 = -1)

/-- A flush that is turned away returns -1. -/
theorem flush_refused (h : s.file.pFile = none ∨ s.pBufferCurrent = none ∨
    (s.isThreadReady && s.isFlushing env.tryLock) = true) : s.flush env = (-1, s) := by
  unfold State.flush
  rcases h with h | h | h
  · rw [if_pos (Or.inl h)]
  · rw [if_pos (Or.inr h)]
  · rw [if_pos h]
    split <;> rfl

theorem flush_taken {p : Nat} (hopen : s.file.pFile ≠ none) (hp : s.pBufferCurrent = some p)
    (hfree : (s.isThreadReady && s.isFlushing env.tryLock) = false) :
    s.flush env = (0, { s.flushToFile env.stdio (some p) s.countBufferCurrent with
      countBufferCurrent := 0 }) := by
  simp [State.flush, hopen, hp, hfree]

/-- A flush is honest exactly when it is turned away or stdio writes all the records. -/
theorem flush_honest_iff (h : Pending s) (env : Env) :
    FlushHonest env s ↔ s.pBufferCurrent = none ∨
      (s.isThreadReady && s.isFlushing env.tryLock) = true ∨
      s.file.WritesAll env.stdio s.countBufferCurrent := by
  have hrefused (hflush : s.flush env = (-1, s)) : FlushHonest env s := by
    have hne : ¬ (-1 : Int) = 0 := by decide
    unfold FlushHonest
    rw [hflush]
    exact ⟨fun hzero => absurd hzero hne, fun _ => rfl⟩
  cases hp : s.pBufferCurrent with
  | none => exact ⟨fun _ => Or.inl rfl, fun _ => hrefused (flush_refused (Or.inr (Or.inl hp)))⟩
  | some p =>
    cases hfree : s.isThreadReady && s.isFlushing env.tryLock with
    | true =>
      exact ⟨fun _ => Or.inr (Or.inl rfl),
        fun _ => hrefused (flush_refused (Or.inr (Or.inr hfree)))⟩
    | false =>
      have hslots := h.slots p hp
      have hfit : s.countBufferCurrent * s.sizeElementInBuffer < sizeTRange :=
        mul_lt_sizeTRange h.count_le h.fits
      have happends := LogFile.flushToFile_appends_iff env.stdio s.sizeElementInBuffer
        (s.heap p).cells h.opened
        (by have := h.count_pos; omega) h.file_lt hslots h.size_pos hfit
      have hflush : s.flush env = _ := flush_taken (by rw [h.opened]; simp) hp hfree
      unfold FlushHonest State.pending
      rw [hflush, hp, cellsAt_some]
      rw [← happends]
      constructor
      · intro hhonest
        exact Or.inr (Or.inr (hhonest.1 rfl))
      · rintro (hno | hno | hall)
        · cases hno
        · cases hno
        · exact ⟨fun _ => hall, fun hnot => absurd hall hnot⟩

/-- Two of three slots filled, four records per file. -/
def twoPending : State Nat := ((threeFour.write {} 10).2.write {} 11).2

theorem twoPending_pending : Pending twoPending where
  opened := rfl
  count_pos := by decide
  count_le := by decide
  max_le := by decide
  file_nonneg := by decide
  file_lt := by decide
  size_pos := by decide
  fits := by decide
  slots := by
    intro p hp
    cases (hp : some 0 = some p)
    decide

theorem flush_honest_two : FlushHonest {} twoPending :=
  (flush_honest_iff twoPending_pending {}).mpr (Or.inr (Or.inr (by decide)))

/-- The `fwrite` of the two records fails after one of them, and the flush returns 0. -/
theorem flush_dishonest : Pending twoPending ∧
    (twoPending.flush { stdio := { fwrite := .short 1 } }).2.file.logContents = [10] ∧
    twoPending.file.logContents ++ twoPending.pending = [10, 11] ∧
    ¬ FlushHonest { stdio := { fwrite := .short 1 } } twoPending := by
  refine ⟨twoPending_pending, by decide, by decide, fun h => ?_⟩
  have hall := h.1 rfl
  revert hall
  decide

/-- The log stays open and as it is, and the next `logTlm_write` is accepted. -/
structure FlushKeeps (env : Env) (s : State ρ) : Prop where
  opened : (s.flush env).2.file.pFile ≠ none
  contents : (s.flush env).2.file.contents = s.file.contents
  countFile : (s.flush env).2.file.countFile = s.file.countFile
  countRotatingFile : (s.flush env).2.file.countRotatingFile = s.file.countRotatingFile
  accepts : ∀ env' pData, ((s.flush env).2.write env' pData).1 ≠ -2

/-- Without the thread, a flush with no record pending never leaves the log as it is. -/
theorem flush_empty_not_kept [Inhabited ρ] (s : State ρ) (env : Env)
    (hthread : s.isThreadReady = false) (hopen : s.file.pFile ≠ none)
    (hempty : s.countBufferCurrent = 0) : ¬ FlushKeeps env s := by
  intro h
  cases hp : s.pBufferCurrent with
  | none =>
    have hwrite : ((s.flush env).2.write env default).1 = -2 := by
      rw [flush_refused (Or.inr (Or.inl hp)), State.write, if_pos (Or.inl hp)]
    exact h.accepts env default hwrite
  | some p =>
    have hfree : (s.isThreadReady && s.isFlushing env.tryLock) = false := by
      rw [hthread]
      rfl
    have hflush := flush_taken hopen hp hfree
    have hkept := h.opened
    have hcount := h.countRotatingFile
    rw [hflush, hempty] at hkept hcount
    rcases LogFile.flushToFile_nothing env.stdio s.sizeElementInBuffer
      (s.cellsAt (some p)) hopen with hclosed | hrotated
    · exact hkept hclosed
    · exact absurd (hrotated.symm.trans hcount) (intSucc_ne _)

theorem flush_empty_not_kept_opened : ¬ FlushKeeps {} threeFour :=
  flush_empty_not_kept threeFour {} rfl (by decide) rfl

/-- Right after `logTlm_open`, a flush closes the log and the next `logTlm_write` is refused. -/
theorem flush_after_open : threeFour.file.pFile ≠ none ∧ threeFour.countBufferCurrent = 0 ∧
    (threeFour.flush {}).2.file.pFile = none ∧ ((threeFour.flush {}).2.write {} 10).1 = -2 := by
  decide

end

end HexrotPxiCom.LogTlm
