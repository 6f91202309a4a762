import SchemaGuide.Uri.Basic

/-! Absolute paths. The path of a file at an address starts at the root, because every segment is
written behind a slash and no other character has the byte of a slash in front. Taken from such a
path, another one stays as it is only if it is absolute itself. -/
namespace SchemaGuide

/-- Only a slash has the byte of a slash in front. -/
theorem eq_slash_of_first_byte {c : Char} {bytes : List UInt8}
    (first : String.utf8EncodeChar c = 0x2F :: bytes) : c = '/' := by
  have least (code : Nat) (low : code < 256) (same : UInt8.ofNat code = 0x2F) : code = 0x2F := by
    have value := congrArg UInt8.toNat same
    rw [UInt8.toNat_ofNat_of_lt' low] at value
    exact value
  unfold String.utf8EncodeChar at first
  dsimp only at first
  split at first
  · have code := least _ (by omega) (List.cons.inj first).1
    exact Char.ext (UInt32.toNat_inj.mp code)
  · -- The first of several bytes is at least 192.
    split at first
    · have := least _ (by omega) (List.cons.inj first).1
      omega
    · split at first
      · have := least _ (by omega) (List.cons.inj first).1
        omega
      · have := least _ (by omega) (List.cons.inj first).1
        omega

/-- A text of bytes starts with a slash if the bytes do. -/
theorem textOfBytes_starts (bytes : List UInt8) :
    (Uri.textOfBytes (0x2F :: bytes)).toList.head? = some '/' := by
  rw [Uri.textOfBytes]
  cases read : String.fromUTF8? ⟨(0x2F :: bytes).toArray⟩ with
  | none => simp
  | some text =>
    have whole : text.toByteArray = ⟨(0x2F :: bytes).toArray⟩ := by
      unfold String.fromUTF8? at read
      split at read
      · cases read
        rfl
      · cases read
    have encoded : text.toList.flatMap String.utf8EncodeChar = 0x2F :: bytes := by
      rw [← text.ofList_toList, String.toByteArray_ofList, List.utf8Encode] at whole
      simpa using congrArg (fun whole : ByteArray => whole.data.toList) whole
    rw [Option.getD_some]
    cases chars : text.toList with
    | nil =>
      rw [chars] at encoded
      cases encoded
    | cons c rest =>
      rw [chars, List.flatMap_cons] at encoded
      cases first : String.utf8EncodeChar c with
      | nil => exact absurd first String.utf8EncodeChar_ne_nil
      | cons byte more =>
        rw [first, List.cons_append] at encoded
        rw [(List.cons.inj encoded).1] at first
        rw [eq_slash_of_first_byte first, List.head?_cons]

/-- The path of a file at an address starts at the root. -/
theorem isAbsolute_of_filePath {uri : Uri} {path : FilePath} (told : uri.filePath? = some path) :
    path.isAbsolute = true := by
  unfold Uri.filePath? at told
  split at told
  · split at told
    · cases told
    · cases told
      rw [FilePath.isAbsolute, decide_eq_true_iff, List.flatMap_cons, List.cons_append]
      unfold Uri.closeDrive
      split
      · split
        · exact textOfBytes_starts _
        · exact textOfBytes_starts _
      · exact textOfBytes_starts _
  · cases told
  · cases told

/-- Taken from an absolute base, a path stays as it is exactly if it is absolute itself. -/
theorem FilePath.join_eq_self_iff {base : FilePath} (absolute : base.isAbsolute = true)
    (path : FilePath) : base.join path = path ↔ path.isAbsolute = true := by
  rw [FilePath.isAbsolute, decide_eq_true_iff] at absolute
  obtain ⟨rest, chars⟩ := List.head?_eq_some_iff.mp absolute
  rw [FilePath.join]
  constructor
  · intro same
    split at same
    · assumption
    · rw [← same, FilePath.isAbsolute, decide_eq_true_iff]
      split <;> simp [chars]
  · intro other
    rw [if_pos other]

end SchemaGuide
