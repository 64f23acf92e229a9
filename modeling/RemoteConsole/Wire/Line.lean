import RemoteConsole.Wire.Framer
import RemoteConsole.Text.Pieces
import RemoteConsole.Text.Utf8

namespace RemoteConsole.Wire

inductive LineKind where
  | version
  | authenticated
  | error
  | echo
  | response
  | log
  | other (byte : UInt8)
  deriving DecidableEq, Inhabited

namespace LineKind

def ofByte (byte : UInt8) : LineKind :=
  if byte = 118 then .version
  else if byte = 97 then .authenticated
  else if byte = 101 then .error
  else if byte = 99 then .echo
  else if byte = 114 then .response
  else if byte = 108 then .log
  else .other byte

def byte : LineKind → UInt8
  | .version => 118
  | .authenticated => 97
  | .error => 101
  | .echo => 99
  | .response => 114
  | .log => 108
  | .other byte => byte

end LineKind

structure Line where
  kind : LineKind
  fields : List String
  delimiter : UInt8
  deriving DecidableEq, Inhabited

def charOfByte (byte : UInt8) : Char :=
  Char.ofNat byte.toNat

namespace Line

/-- A line of one byte has no fields; any other has one more than it has delimiters. -/
def parse? (delimiter : UInt8) : Bytes → Option Line
  | [] => none
  | type :: payload =>
    some {
      kind := .ofByte type
      fields :=
        if payload.isEmpty then []
        else (Text.piecesOf delimiter payload).map Text.Utf8.decode
      delimiter }

variable (line : Line)

def field (index : Nat) : String :=
  line.fields.getD index ""

def joined (separator : String) : String :=
  Text.join separator line.fields

def delimiterChar : Char :=
  charOfByte line.delimiter

def raw : String :=
  String.singleton (charOfByte line.kind.byte) ++
    Text.join (String.singleton line.delimiterChar) line.fields

end Line

end RemoteConsole.Wire
