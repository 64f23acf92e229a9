import RemoteConsole.Proofs.Text.Pieces
import RemoteConsole.Proofs.Text.Utf8
import RemoteConsole.Wire.Line

namespace RemoteConsole

namespace Text.Utf8

variable {b : UInt8}

theorem mem_encodeChar (hb : b.toNat < 0x80) {c : Char} :
    b ∈ encodeChar c ↔ c.toNat = b.toNat := by
  have hbyte (n : Nat) (hn : n < 256) : b = .ofNat n ↔ n = b.toNat := by
    rw [← UInt8.toNat_inj, UInt8.toNat_ofNat_of_lt' hn, eq_comm]
  have hc := toNat_bounds c
  simp only [encodeChar]
  split
  · rw [List.mem_singleton, hbyte _ (by omega)]
  · split
    · simp only [List.mem_cons, List.not_mem_nil, or_false]
      rw [hbyte _ (by omega), hbyte _ (by omega)]
      omega
    · split
      · simp only [List.mem_cons, List.not_mem_nil, or_false]
        rw [hbyte _ (by omega), hbyte _ (by omega), hbyte _ (by omega)]
        omega
      · simp only [List.mem_cons, List.not_mem_nil, or_false]
        rw [hbyte _ (by omega), hbyte _ (by omega), hbyte _ (by omega), hbyte _ (by omega)]
        omega

theorem encodeChar_of_byte (hb : b.toNat < 0x80) {c : Char} (hc : c.toNat = b.toNat) :
    encodeChar c = [b] := by
  rw [encodeChar, hc, if_pos hb, UInt8.ofNat_toNat]

theorem splitOn_flatMap_encodeChar (hb : b.toNat < 0x80) {separator : Char}
    (hseparator : separator.toNat = b.toNat) (cs : List Char) :
    (cs.flatMap encodeChar).splitOn b =
      (cs.splitOn separator).map fun piece => piece.flatMap encodeChar := by
  induction cs with
  | nil => rfl
  | cons c cs ih =>
      rw [List.flatMap_cons, List.splitOn_cons_eq_if_modifyHead]
      by_cases hc : c = separator
      · rw [hc, encodeChar_of_byte hb hseparator, List.singleton_append,
          List.splitOn_cons_eq_if_modifyHead, ih]
        simp
      · have hother : b ∉ encodeChar c := by
          rw [mem_encodeChar hb, ← hseparator]
          exact mt Char.toNat_inj.1 hc
        obtain ⟨piece, pieces, hpieces⟩ :=
          List.exists_cons_of_ne_nil (List.splitOn_ne_nil separator cs)
        rw [splitOn_append_of_not_mem hother, ih, hpieces]
        simp [hc]

end Text.Utf8

namespace Wire

open Text.Utf8 (encode decode)

variable {delimiter : UInt8}

theorem toNat_charOfByte (hascii : delimiter.toNat < 0x80) :
    (charOfByte delimiter).toNat = delimiter.toNat :=
  Text.Utf8.toNat_ofNat_ascii hascii

theorem mem_encode (hascii : delimiter.toNat < 0x80) {s : String} :
    delimiter ∈ encode s ↔ charOfByte delimiter ∈ s.toList := by
  simp only [encode, List.mem_flatMap, Text.Utf8.mem_encodeChar hascii]
  rw [← toNat_charOfByte hascii]
  simp [Char.toNat_inj]

theorem piecesOf_encode (hascii : delimiter.toNat < 0x80) (s : String) :
    (Text.piecesOf delimiter (encode s)).map decode = Text.pieces (charOfByte delimiter) s := by
  rw [Text.piecesOf_eq_splitOn, encode,
    Text.Utf8.splitOn_flatMap_encodeChar hascii (toNat_charOfByte hascii), List.map_map,
    Text.pieces, Text.piecesOf_eq_splitOn]
  refine List.map_congr_left fun piece _ => ?_
  simpa [encode] using Text.Utf8.decode_encode (String.ofList piece)

namespace Line

/-- The bytes of a line: its type, then its fields with the delimiter between them. -/
def bytes (line : Line) : Bytes :=
  line.kind.byte :: [line.delimiter].intercalate (line.fields.map encode)

variable {kind : LineKind} {fields : List String}

theorem parse?_bytes_concat (hkind : LineKind.ofByte kind.byte = kind)
    (hascii : delimiter.toNat < 0x80) (hfields : fields ≠ [])
    (hwhole : ∀ field ∈ fields, delimiter ∉ encode field) (last : String) :
    parse? delimiter (bytes ⟨kind, fields ++ [last], delimiter⟩) =
      some ⟨kind, fields ++ Text.pieces (charOfByte delimiter) last, delimiter⟩ := by
  have hwritten : ∀ field ∈ fields.map encode, delimiter ∉ field := by simpa using hwhole
  have hpieces : (Text.piecesOf delimiter
      ([delimiter].intercalate (fields.map encode ++ [encode last]))).map decode =
      fields ++ Text.pieces (charOfByte delimiter) last := by
    rw [Text.piecesOf_eq_splitOn, Text.splitOn_intercalate_concat hwritten, List.map_append,
      List.map_map, ← Text.piecesOf_eq_splitOn, piecesOf_encode hascii]
    simp [Function.comp_def, Text.Utf8.decode_encode]
  have hpayload : [delimiter].intercalate (fields.map encode ++ [encode last]) ≠ [] := by
    obtain ⟨first, others, rfl⟩ := List.exists_cons_of_ne_nil hfields
    rw [List.map_cons, List.cons_append, List.intercalate_cons_of_ne_nil (by simp)]
    simp
  simp only [bytes, parse?, List.map_append, List.map_singleton, hkind, hpieces,
    List.isEmpty_eq_false_iff.2 hpayload, Bool.false_eq_true, if_false]

theorem parse?_bytes (hkind : LineKind.ofByte kind.byte = kind)
    (hascii : delimiter.toNat < 0x80) (hseveral : 2 ≤ fields.length)
    (hwhole : ∀ field ∈ fields, delimiter ∉ encode field) :
    parse? delimiter (bytes ⟨kind, fields, delimiter⟩) = some ⟨kind, fields, delimiter⟩ := by
  have hlast := List.dropLast_concat_getLast (l := fields) (by rintro rfl; simp at hseveral)
  have hfront : fields.dropLast ≠ [] := by
    intro h
    have := congrArg List.length h
    simp only [List.length_dropLast, List.length_nil] at this
    omega
  rw [← hlast] at hwhole ⊢
  rw [parse?_bytes_concat hkind hascii hfront fun field h => hwhole field (by simp [h]),
    Text.pieces_of_not_mem (mt (mem_encode hascii).2 (hwhole _ (by simp)))]

end Line

end Wire

end RemoteConsole
