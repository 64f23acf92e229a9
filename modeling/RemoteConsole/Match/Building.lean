import RemoteConsole.Team
import RemoteConsole.Text.Binary64

namespace RemoteConsole.Match

structure Building where
  name : String
  team : Team
  health : Int32 := 0
  maxHealth : Int32 := 0
  armor : Int32 := 0
  maxArmor : Int32 := 0
  capturable : Bool := false
  destroyed : Bool := false
  deriving DecidableEq, Inhabited

def Building.integrity (b : Building) : Text.Binary64 :=
  .ofRatio (b.health.toInt + b.armor.toInt).toNat (b.maxHealth.toInt + b.maxArmor.toInt).toNat

end RemoteConsole.Match
