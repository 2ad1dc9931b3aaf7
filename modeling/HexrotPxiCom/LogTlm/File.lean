import HexrotPxiCom.Lib.SizeT
import Mathlib.Data.List.Basic
import Mathlib.Logic.Function.Basic

/-!
# The telemetry log file and its rotation

`logTlm_close`, `logTlm_rotateFile`, `logTlm_writeToFile` and `logTlm_flushToFile` on the
globals that describe the file. A buffer is the list of its element slots: every access
of these functions is by whole elements, and the byte sizes handed to `fwrite` are kept.
The answers of stdio are given with each call. Nothing calls `fflush`, so what `fwrite` takes
is in the stream until `fclose` has written it to the file.
-/

namespace HexrotPxiCom.LogTlm

set_option autoImplicit false

universe u
variable {ρ : Type u}

/-- A name made by `logTlm_setFilename`, or by `logTlm_getRotatedFilename` from it. -/
structure FileName where
  base : String
  extension : Option Int
  deriving Repr, DecidableEq

/-- One `fwrite` of a nonzero size: the whole item, or an error after `k` records. -/
inductive WriteResult where
  | full
  | short (k : Nat)
  deriving Repr, DecidableEq

/-- One `fclose`: the whole stream gets into the file, or an error after `kept` records
of it did. The stream is closed in both cases. -/
inductive CloseResult where
  | done
  | failed (kept : Nat)
  deriving Repr, DecidableEq

def CloseResult.status : CloseResult → Int
  | .done => 0
  | .failed _ => -1

/-- The records of the stream that get into the file. -/
def CloseResult.written (r : CloseResult) (stream : List ρ) : List ρ :=
  match r with
  | .done => stream
  | .failed kept => stream.take kept

/-- The answers of stdio during one `logTlm_flushToFile`. `fclose` answers the close of
`logTlm_rotateFile`, and `fcloseError` the one behind a failed `fwrite`. -/
structure Stdio where
  fwrite : WriteResult := .full
  fclose : CloseResult := .done
  rename : Bool := true
  fopen : Bool := true
  fwriteLeft : WriteResult := .full
  fcloseError : CloseResult := .done
  deriving Repr, DecidableEq

def Stdio.Success (io : Stdio) : Prop :=
  io.fwrite = .full ∧ io.fclose = .done ∧ io.rename = true ∧ io.fopen = true ∧
    io.fwriteLeft = .full

instance (io : Stdio) : Decidable io.Success := inferInstanceAs (Decidable (_ ∧ _))

/-- `logTlm_rotateFile` comes to the increment of `countRotatingFile`. -/
def Stdio.Renames (io : Stdio) : Prop :=
  io.fwrite = .full ∧ io.fclose = .done ∧ io.rename = true

instance (io : Stdio) : Decidable io.Renames := inferInstanceAs (Decidable (_ ∧ _))

/-- The globals of `logTlm.c` about the file, and the files on disk. The `stream` behind
`pFile` holds what `fwrite` has taken since `fopen`. -/
structure LogFile (ρ : Type u) where
  filename : String
  pFile : Option FileName
  stream : List ρ
  disk : FileName → Option (List ρ)
  countRotatingFile : Int
  countFileMax : Int
  countFile : Int

namespace LogFile

def current (f : LogFile ρ) : FileName := ⟨f.filename, none⟩

/-- `logTlm_getRotatedFilename` when `countRotatingFile` is `i`. -/
def rotated (f : LogFile ρ) (i : Int) : FileName := ⟨f.filename, some i⟩

/-- The records of a file, with those of the stream that is open on it. -/
def contents (f : LogFile ρ) (n : FileName) : List ρ :=
  (f.disk n).getD [] ++ if f.pFile = some n then f.stream else []

/-- The files `.0` to `.(countRotatingFile - 1)`. -/
def rotatedContents (f : LogFile ρ) : List ρ :=
  (List.range f.countRotatingFile.toNat).flatMap fun i : Nat => f.contents (f.rotated i)

/-- The rotated files in number order, then the current file. -/
def logContents (f : LogFile ρ) : List ρ := f.rotatedContents ++ f.contents f.current

def close (fclose : CloseResult) (f : LogFile ρ) : Int × LogFile ρ :=
  match f.pFile with
  | none => (0, f)
  | some n => (fclose.status, { f with
      pFile := none
      stream := []
      disk := Function.update f.disk n
        (some ((f.disk n).getD [] ++ fclose.written f.stream)) })

def append (rs : List ρ) (f : LogFile ρ) : LogFile ρ := { f with stream := f.stream ++ rs }

/-- `fwrite(p, size, 1, pFile)`, where the item holds the records `rs`. -/
def fwrite (r : WriteResult) (size : Nat) (rs : List ρ) (f : LogFile ρ) : Nat × LogFile ρ :=
  if size = 0 then (0, f)
  else match r with
    | .full => (1, f.append rs)
    | .short k => (0, f.append (rs.take k))

/-- `rename(filename, filenameNew)` after `logTlm_getRotatedFilename`. -/
def renameCurrent (f : LogFile ρ) : FileName → Option (List ρ) :=
  Function.update (Function.update f.disk (f.rotated f.countRotatingFile) (f.disk f.current))
    f.current none

def fopen (f : LogFile ρ) : LogFile ρ :=
  { f with
    pFile := some f.current
    stream := []
    disk := Function.update f.disk f.current (some []) }

def rotateFile (io : Stdio) (f : LogFile ρ) : Int × LogFile ρ :=
  let c := f.close io.fclose
  if c.1 ≠ 0 then (-1, c.2)
  else if !io.rename then (-1, c.2)
  else
    let g := { c.2 with
      disk := c.2.renameCurrent
      countRotatingFile := intSucc c.2.countRotatingFile }
    if !io.fopen then (-1, g) else (0, g.fopen)

def writeToFile (r : WriteResult) (fclose : CloseResult) (size : Nat) (rs : List ρ)
    (f : LogFile ρ) : Int × LogFile ρ :=
  let w := f.fwrite r size rs
  if w.1 ≤ 0 then (-1, (w.2.close fclose).2) else (0, w.2)

def flushToFile (io : Stdio) (sizeElementInBuffer : Nat) (pBuffer : List ρ)
    (countBuffer : Int) (f : LogFile ρ) : LogFile ρ :=
  if f.pFile = none then f
  else
    let spaceAvailable := f.countFileMax - f.countFile
    let isSpaceEnough := decide (countBuffer ≤ spaceAvailable)
    let numToFile := if isSpaceEnough then countBuffer else spaceAvailable
    let w := f.writeToFile io.fwrite io.fcloseError (sizeT (numToFile * sizeElementInBuffer))
      (pBuffer.take numToFile.toNat)
    let r := if w.1 = 0 ∧ spaceAvailable = numToFile then w.2.rotateFile io else w
    let isRotated := decide (w.1 = 0 ∧ spaceAvailable = numToFile ∧ r.1 = 0)
    let l :=
      if !isSpaceEnough && isRotated then
        r.2.writeToFile io.fwriteLeft io.fcloseError
          (sizeT ((countBuffer - numToFile) * sizeElementInBuffer))
          ((pBuffer.drop numToFile.toNat).take (countBuffer - numToFile).toNat)
      else r
    if l.1 = -1 then (l.2.close io.fcloseError).2
    else { l.2 with
      countFile := if isRotated then countBuffer - numToFile else l.2.countFile + numToFile }

end LogFile

end HexrotPxiCom.LogTlm
