import RemoteConsole.Match.Player
import RemoteConsole.Saturate
import RemoteConsole.Store.Record

namespace RemoteConsole.Ban

structure Entry where
  flags : Flags := Flags.active.union .game
  issued : UInt64
  duration : UInt64 := 0
  account : AccountId := 0
  address : Address := .unknown
  networkBits : UInt8 := 32
  hardwareId : String := ""
  hostName : String := ""
  name : String := ""
  banner : String := ""
  reason : String := ""
  extra : Dictionary := .empty
  deriving DecidableEq, Inhabited

namespace Entry

variable (b : Entry)

def isActive : Bool :=
  b.flags.contains .active

def isPermanent : Bool :=
  b.duration == 0

def expiry? : Option UInt64 :=
  if b.isPermanent then none else some (saturate64 (b.issued.toNat + b.duration.toNat))

def isExpired (now : UInt64) : Bool :=
  match b.expiry? with
  | none => false
  | some ending => decide (ending ≤ now)

def concerns (p : Match.Player) : Bool :=
  (b.account != 0 && b.account == p.account) ||
    (b.address.isKnown && p.address.isKnown && b.address.sameNetwork p.address b.networkBits) ||
    (b.hardwareId != "" && b.hardwareId == p.hardwareId)

def network : String :=
  b.address.toString ++ "/" ++ toString b.networkBits.toNat

def against (p : Match.Player) (banner reason : String) (duration : UInt64) (kinds : Flags)
    (now : UInt64) : Entry where
  flags := kinds.kinds.union .active
  issued := now
  duration := duration
  account := p.account
  address := p.address
  hardwareId := p.hardwareId
  hostName := match p.hostName with
    | .pending _ => ""
    | .known name => name
  name := p.name
  banner := banner
  reason := reason

def lift : Entry :=
  { b with flags := b.flags.remove .active }

end Entry

open Store (Field Schema Value)

def schema : Schema where
  name := "bans"
  current := 5
  oldest := 3
  fields := [
    { name := "flags", kind := .word16 },
    { name := "timestamp", kind := .word64 },
    { name := "duration", kind := .word64 },
    { name := "account_id", kind := .word64 },
    { name := "ip", kind := .word32 },
    { name := "prefix_length", kind := .byte, since := 4, fallback := 32 },
    { name := "hwid", kind := .text, since := 5 },
    { name := "rdns", kind := .text },
    { name := "name", kind := .text },
    { name := "banner", kind := .text },
    { name := "reason", kind := .text },
    { name := "extra", kind := .table }]

instance : Store.Record Entry where
  schema := schema
  signature := [
    (.word16, "flags"), (.word64, "timestamp"), (.word64, "duration"), (.word64, "account_id"),
    (.word32, "ip"), (.byte, "prefix_length"), (.text, "hwid"), (.text, "rdns"), (.text, "name"),
    (.text, "banner"), (.text, "reason"), (.table, "extra")]
  values b := [
    .word16 b.flags.bits, .word64 b.issued, .word64 b.duration, .word64 b.account,
    .word32 b.address.bits, .byte b.networkBits, .text b.hardwareId, .text b.hostName, .text b.name,
    .text b.banner, .text b.reason, .table b.extra]
  ofValues? values :=
    match values with
    | [.word16 flags, .word64 issued, .word64 duration, .word64 account, .word32 address,
        .byte networkBits, .text hardwareId, .text hostName, .text name, .text banner, .text reason,
        .table extra] =>
      some {
        flags := ⟨flags⟩, issued, duration, account, address := ⟨address⟩, networkBits, hardwareId
        hostName, name, banner, reason, extra }
    | _ => none

end RemoteConsole.Ban
