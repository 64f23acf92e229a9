import RemoteConsole.GameLog.Classify
import RemoteConsole.Proofs.GameLog.Tags
import RemoteConsole.Proofs.Wire.Fields
import RemoteConsole.Wire.Banner

namespace RemoteConsole.GameLog

/-- A log line as it comes over the wire. -/
def line (fields : List String) : Wire.Bytes :=
  Wire.Line.bytes ⟨.log, fields, Wire.delimiter⟩

def read? (bytes : Wire.Bytes) : Option Entry :=
  (Wire.Line.parse? Wire.delimiter bytes).map classify

def Whole (s : String) : Prop :=
  Wire.delimiter ∉ Text.Utf8.encode s

instance (s : String) : Decidable (Whole s) :=
  inferInstanceAs (Decidable (¬ _))

def argumentsOf (fields : List String) : Arguments :=
  ⟨fields, Wire.charOfByte Wire.delimiter⟩

section Reading

variable (header topic : String)

def entryOf (args : Arguments) : Entry :=
  (args.entry? header topic).getD (.unknown header topic)

theorem read?_line (fields : List String)
    (hwhole : ∀ field ∈ header :: topic :: fields, Whole field) :
    read? (line (header :: topic :: fields)) =
      some (entryOf header topic (argumentsOf fields)) := by
  rw [read?, line, Wire.Line.parse?_bytes rfl (by decide) (by simp) hwhole]
  rfl

theorem read?_line_concat (fields : List String) (last : String)
    (hwhole : ∀ field ∈ header :: topic :: fields, Whole field) :
    read? (line (header :: topic :: fields ++ [last])) =
      some (entryOf header topic
        (argumentsOf (fields ++ Text.pieces (Wire.charOfByte Wire.delimiter) last))) := by
  rw [read?, line, Wire.Line.parse?_bytes_concat rfl (by decide) (List.cons_ne_nil _ _) hwhole]
  rfl

end Reading

theorem PlayerTag.ne_of_parse? {token keyword : String} {tag : PlayerTag}
    (h : parse? token = some tag) (hkeyword : ',' ∉ keyword.toList) : token ≠ keyword := by
  rintro rfl
  exact hkeyword (comma_mem_of_parse? h)

namespace Arguments

variable {fields : List String} {delimiter : Char} {field keyword : String}

@[simp] theorem after?_nil : after? ⟨[], delimiter⟩ keyword = none :=
  rfl

@[simp] theorem after?_keyword : after? ⟨keyword :: fields, delimiter⟩ keyword = fields.head? := by
  simp [after?, find?, get?, List.findIdx?_cons, List.head?_eq_getElem?]

@[simp] theorem after?_other (h : field ≠ keyword) :
    after? ⟨field :: fields, delimiter⟩ keyword = after? ⟨fields, delimiter⟩ keyword := by
  have hfield : (field == keyword) = false := beq_false_of_ne h
  simp only [after?, find?, get?, List.findIdx?_cons, hfield]
  cases fields.findIdx? (· == keyword) <;> rfl

@[simp] theorem after?_last : after? ⟨[field], delimiter⟩ keyword = none := by
  by_cases h : field = keyword
  · rw [h, after?_keyword, List.head?_nil]
  · rw [after?_other h, after?_nil]

@[simp] theorem restAfter?_keyword :
    restAfter? ⟨keyword :: fields, delimiter⟩ keyword =
      some (Text.join (String.singleton delimiter) fields) := by
  simp [restAfter?, find?, rest, List.findIdx?_cons]

@[simp] theorem restAfter?_other (h : field ≠ keyword) :
    restAfter? ⟨field :: fields, delimiter⟩ keyword = restAfter? ⟨fields, delimiter⟩ keyword := by
  have hfield : (field == keyword) = false := beq_false_of_ne h
  simp only [restAfter?, find?, rest, List.findIdx?_cons, hfield]
  cases fields.findIdx? (· == keyword) <;> rfl

end Arguments

end RemoteConsole.GameLog
