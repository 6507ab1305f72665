/-
  CodeFigure/Files/Basic.lean
  ===========================
  **Files, as far as reading them goes.**

  The library only ever looks whether something is at a path, and reads files.  These
  are two questions, and one answer does not follow from the other: what is there may be
  a directory, or a file that may not be read.  Reading a file as text can fail in one
  more way, because not all bytes are UTF-8.
-/
namespace CodeFigure

inductive FileError where
  | notFound
  | notADirectory
  | isADirectory
  | nameTooLong
  | zeroInName
  | notUtf8
  | other (message : String)
deriving DecidableEq, Repr

def FileError.message : FileError → String
  | .notFound => "No such file or directory (os error 2)"
  | .notADirectory => "Not a directory (os error 20)"
  | .isADirectory => "Is a directory (os error 21)"
  | .nameTooLong => "File name too long (os error 36)"
  | .zeroInName => "file name contained an unexpected NUL byte"
  | .notUtf8 => "stream did not contain valid UTF-8"
  | .other message => message

/-- What reading to the end gives. -/
abbrev Reading := Except FileError ByteArray

/-- Bytes that are at hand have been read. -/
instance : Coe ByteArray Reading := ⟨.ok⟩

/-- What there is to be found out about each path. -/
structure FileSystem where
  /-- The path leads to a file, a directory or anything else. -/
  has : String → Bool
  /-- The bytes of the file at the path. -/
  read : String → Reading

def decodeText (content : ByteArray) : Except FileError String :=
  match String.fromUTF8? content with
  | some text => .ok text
  | none => .error .notUtf8

theorem decodeText_toUTF8 (text : String) : decodeText text.toUTF8 = .ok text := by
  have hvalid : text.toUTF8.IsValidUTF8 := text.isValidUTF8
  have hdecoded : String.fromUTF8? text.toUTF8 = some text := by
    unfold String.fromUTF8?
    rw [dif_pos hvalid]
    rfl
  rw [decodeText, hdecoded]

def FileSystem.readText (files : FileSystem) (path : String) : Except FileError String :=
  (files.read path).bind decodeText

end CodeFigure
