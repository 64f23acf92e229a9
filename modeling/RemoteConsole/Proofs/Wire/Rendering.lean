import RemoteConsole.Proofs.Text.Decoding
import RemoteConsole.Proofs.Wire.Fields
import RemoteConsole.Wire.Banner

namespace RemoteConsole.Wire

open Text.Utf8 (encode decode)

namespace LineKind

theorem byte_ofByte (byte : UInt8) : (ofByte byte).byte = byte := by
  unfold ofByte
  grind [LineKind.byte]

end LineKind

theorem encode_append (s t : String) : encode (s ++ t) = encode s ++ encode t := by
  simp [encode]

theorem encode_eq_nil_iff {s : String} : encode s = [] ↔ s = "" := by
  refine ⟨fun h => ?_, fun h => h ▸ rfl⟩
  rw [← Text.Utf8.decode_encode s, h]
  rfl

variable {type mark : UInt8} {payload : Bytes} {line : Line}

theorem encode_type (htype : type.toNat < 0x80) (s : String) :
    encode (String.singleton (charOfByte type) ++ s) = type :: encode s := by
  rw [encode_append, encode, String.toList_singleton, List.flatMap_singleton,
    Text.Utf8.encodeChar_of_byte htype (toNat_charOfByte htype), List.singleton_append]

theorem decode_type (htype : type.toNat < 0x80) (payload : Bytes) :
    decode (type :: payload) = String.singleton (charOfByte type) ++ decode payload := by
  rw [← List.nil_append (type :: payload),
    Text.Utf8.decode_append_cons htype (toNat_charOfByte htype)]
  simp [Text.Utf8.decode_eq_empty_iff.2]

namespace Line

theorem fields_of_parse? (h : parse? mark (type :: payload) = some line) :
    line.fields = if payload = [] then [] else (Text.piecesOf mark payload).map decode := by
  cases h
  simp

theorem join_fields (hmark : mark.toNat < 0x80) (h : parse? mark (type :: payload) = some line) :
    Text.join (String.singleton (charOfByte mark)) line.fields = decode payload := by
  rw [fields_of_parse? h]
  split
  · rename_i hempty
    rw [hempty]
    rfl
  · rw [← Text.Utf8.pieces_decode hmark (toNat_charOfByte hmark), Text.join_pieces]

theorem raw_of_parse? (htype : type.toNat < 0x80) (hmark : mark.toNat < 0x80)
    (h : parse? mark (type :: payload) = some line) : line.raw = decode (type :: payload) := by
  have hkind : line.kind.byte = type := by
    cases h
    exact LineKind.byte_ofByte type
  have hdelimiter : line.delimiter = mark := by
    cases h
    rfl
  rw [raw, hkind, delimiterChar, hdelimiter, join_fields hmark h, decode_type htype]

/-- What a line is read as is read as itself. -/
theorem parse?_encode_decode (htype : type.toNat < 0x80) (hmark : mark.toNat < 0x80) :
    parse? mark (encode (decode (type :: payload))) = parse? mark (type :: payload) := by
  have hempty : (encode (decode payload)).isEmpty = payload.isEmpty := by
    rw [Bool.eq_iff_iff, List.isEmpty_iff, List.isEmpty_iff, encode_eq_nil_iff,
      Text.Utf8.decode_eq_empty_iff]
  rw [decode_type htype, encode_type htype, parse?, parse?, hempty, piecesOf_encode hmark,
    Text.Utf8.pieces_decode hmark (toNat_charOfByte hmark)]

theorem length_fields (h : parse? mark (type :: payload) = some line) :
    line.fields.length = if payload = [] then 0 else payload.count mark + 1 := by
  rw [fields_of_parse? h]
  split
  · rfl
  · rw [List.length_map, Text.piecesOf_eq_splitOn, Text.length_splitOn]

theorem mark_not_mem_field (hmark : mark.toNat < 0x80)
    (h : parse? mark (type :: payload) = some line) {field : String}
    (hfield : field ∈ line.fields) : charOfByte mark ∉ field.toList := by
  rw [fields_of_parse? h, Text.piecesOf_eq_splitOn] at hfield
  split at hfield
  · cases hfield
  · obtain ⟨piece, hpiece, rfl⟩ := List.mem_map.1 hfield
    rw [Text.Utf8.mem_decode hmark (toNat_charOfByte hmark)]
    exact Text.not_mem_of_mem_splitOn hpiece

end Line

/-- A line that begins with an ASCII byte is read; its text is that of the bytes, if they are UTF-8,
and is in any case read as the same line. -/
theorem rendering_undoes_parsing (htype : type.toNat < 0x80) (payload : Bytes) :
    ∃ line, Line.parse? delimiter (type :: payload) = some line ∧
      (∀ text, type :: payload = encode text → line.raw = text) ∧
      Line.parse? delimiter (encode line.raw) = some line ∧
      line.fields.length = (if payload = [] then 0 else payload.count delimiter + 1) ∧
      ∀ field ∈ line.fields, charOfByte delimiter ∉ field.toList := by
  have hmark : delimiter.toNat < 0x80 := by decide
  obtain ⟨line, hline⟩ : ∃ line, Line.parse? delimiter (type :: payload) = some line := ⟨_, rfl⟩
  have hraw := Line.raw_of_parse? htype hmark hline
  refine ⟨line, hline, fun text htext => ?_, ?_, Line.length_fields hline,
    fun field => Line.mark_not_mem_field hmark hline⟩
  · rw [hraw, htext, Text.Utf8.decode_encode]
  · rw [hraw, Line.parse?_encode_decode htype hmark, hline]

theorem rendering_undoes_parsing_with_cut_characters :
    (0x6C : UInt8).toNat < 0x80 ∧
      ∃ line, Line.parse? delimiter [0x6C, 0xC3, 0x02, 0xA9, 0x02] = some line ∧
        line.fields = ["\uFFFD", "\uFFFD", ""] ∧ line.raw = "l\uFFFD\x02\uFFFD\x02" ∧
        Line.parse? delimiter (encode line.raw) = some line := by
  have htype : (0x6C : UInt8).toNat < 0x80 := by decide
  obtain ⟨line, hline, -, hagain, -, -⟩ := rendering_undoes_parsing htype [0xC3, 0x02, 0xA9, 0x02]
  refine ⟨htype, line, hline, ?_, ?_, hagain⟩
  · cases hline
    decide +kernel
  · cases hline
    decide +kernel

end RemoteConsole.Wire
