import RemoteConsole.Match.Model

namespace RemoteConsole.Match

open GameLog (PlayerTag Outcome Entry ObjectKind)

def isBeacon (object : String) : Bool :=
  Text.contains object "Beacon"

def isMine (object : String) : Bool :=
  Text.contains object "Mine" || Text.contains object "Proxy"

namespace Model

variable (now : Instant) (m : Model)

def latch (milestone : Milestone) (tag : PlayerTag) (r : Model × List Event) : Model × List Event :=
  let (m, events) := r
  if m.reached.get milestone then r
  else
    ({ m with reached := m.reached.mark milestone },
      events ++ [.milestone milestone (m.snapshot now tag)])

def acting (tag : PlayerTag) (f : Player → Player) (event : Player → Event) : Model × List Event :=
  let m := (m.touch now tag).edit tag.id f
  (m, [event (m.snapshot now tag)])

def touchOption : Option PlayerTag → Model
  | none => m
  | some tag => m.touch now tag

def enter (tag : PlayerTag) (ip hardwareId : String) (account : AccountId) : Model × List Event :=
  let player := { (Player.ofTag now tag).setIp ip with hardwareId, account }
  ((m.remove tag.id).add player, [.playerJoin player])

def changeId (oldId newId : PlayerId) : Model × List Event :=
  match m.player? oldId with
  | none => (m, [])
  | some p => (m.edit oldId ({ · with id := newId }), [.idChange { p with id := newId } oldId])

def kill (killer victim : PlayerTag) (damage : String) : Model × List Event :=
  let m := (m.touch now killer).touch now victim
  let headshots : UInt32 := if Text.contains damage "Headshot" then 1 else 0
  let m := m.edit killer.id fun p =>
    { p with kills := p.kills + 1, headshots := p.headshots + headshots }
  let m := m.edit victim.id fun p => { p with deaths := p.deaths + 1 }
  (m, [.kill (m.snapshot now killer) (m.snapshot now victim) damage])
    |> latch now .firstKill killer
    |> latch now .firstDeath victim
    |> latch now .firstAction killer

def countDestroyed (kind : ObjectKind) (p : Player) : Player :=
  match kind with
  | .vehicle => { p with vehicleKills := p.vehicleKills + 1 }
  | .defence | .emplacement => { p with defenceKills := p.defenceKills + 1 }
  | .building => { p with buildingKills := p.buildingKills + 1 }
  | .other => p

def destroyed (kind : ObjectKind) (object : String) (killer : Option PlayerTag)
    (killerName damage : String) : Model × List Event :=
  let m :=
    if kind = .building then
      m.editBuilding object ({ · with destroyed := true, health := 0, armor := 0 })
    else m
  match killer with
  | none => (m, [.destroy kind object none killerName damage])
  | some tag =>
    (m.acting now tag (countDestroyed kind) fun p => .destroy kind object (some p) killerName damage)
      |> latch now .firstAction tag

def captured (tag : PlayerTag) (building : String) (oldTeam : Team) : Model × List Event :=
  let (m, events) := m.acting now tag (fun p => { p with captures := p.captures + 1 })
    (.capture · building oldTeam)
  (m.editBuilding building ({ · with team := (m.snapshot now tag).team }), events)
    |> latch now .firstAction tag

def neutralized (tag : PlayerTag) (building : String) (oldTeam : Team) : Model × List Event :=
  let (m, events) := m.acting now tag id (.neutralize · building oldTeam)
  (m.editBuilding building ({ · with team := .none }), events)
    |> latch now .firstAction tag

def deployed (tag : PlayerTag) (object : String) : Model × List Event :=
  let count (p : Player) : Player :=
    if isBeacon object then { p with beaconPlacements := p.beaconPlacements + 1 }
    else if isMine object then { p with minePlacements := p.minePlacements + 1 }
    else p
  m.acting now tag count (.deploy · object) |> latch now .firstAction tag

def disarmed (tag : PlayerTag) (object : String) (owner : Option PlayerTag) : Model × List Event :=
  let count (p : Player) : Player :=
    if isBeacon object then { p with beaconDisarms := p.beaconDisarms + 1 }
    else if isMine object then { p with mineDisarms := p.mineDisarms + 1 }
    else p
  let m := ((m.touch now tag).edit tag.id count).touchOption now owner
  (m, [.disarm (m.snapshot now tag) object (owner.map (m.snapshot now))])
    |> latch now .firstAction tag

def matchStart (map : String) : Model × List Event :=
  ({ m with
      reached := {}
      phase := { inProgress := true }
      startedAt := some now
      players := m.players.map Player.resetCounters
      map := if map = "" ∨ m.map.is map then m.map else { name := map } },
    [.matchStart map])

def matchEnd (outcome : Outcome) : Model × List Event :=
  ({ m with phase := { m.phase with inProgress := false, ended := true }, outcome := some outcome },
    [.matchEnd outcome])

def mapChanging (map : String) (seamless : Bool) : Model × List Event :=
  ({ m with phase := { m.phase with travelling := true, inProgress := false }, buildings := [] },
    [.mapChange map seamless])

def mapLoaded (name : String) : Model × List Event :=
  let map := m.mapNamed name
  ({ m with phase := { m.phase with travelling := false, pending := true }, map }, [.mapLoad map])

def mapStart (name : String) : Model × List Event :=
  let map := m.mapNamed name
  ({ m with
      reached := {}
      phase := { m.phase with travelling := false, pending := true, ended := false }
      map },
    [.mapStart map])

def apply : Entry → Model × List Event
  | .playerEnter tag ip hardwareId account => m.enter now tag ip hardwareId account
  | .playerExit tag => (m.remove tag.id, [.playerPart (m.snapshot now tag)])
  | .playerKick tag reason => m.acting now tag id (.playerKick · reason)
  | .teamJoin tag newTeam oldTeam =>
    let previous := ((m.touch now tag).snapshot now tag).team
    m.acting now tag ({ · with team := newTeam }) (.teamChange · (oldTeam.getD previous))
  | .nameChange tag newName =>
    let oldName := ((m.touch now tag).snapshot now tag).name
    m.acting now tag ({ · with name := newName }) (.nameChange · oldName)
  | .idChange oldId newId => m.changeId oldId newId
  | .kill killer victim damage => m.kill now killer victim damage
  | .death victim killer damage =>
    m.acting now victim (fun p => { p with deaths := p.deaths + 1 }) (.death · killer damage)
      |> latch now .firstDeath victim
  | .suicide tag damage =>
    m.acting now tag (fun p => { p with suicides := p.suicides + 1, deaths := p.deaths + 1 })
      (.suicide · damage)
      |> latch now .firstDeath tag
  | .destroyed kind object killer killerName damage =>
    m.destroyed now kind object killer killerName damage
  | .captured tag building oldTeam => m.captured now tag building oldTeam
  | .neutralized tag building oldTeam => m.neutralized now tag building oldTeam
  | .deployed tag object => m.deployed now tag object
  | .disarmed tag object owner => m.disarmed now tag object owner
  | .matchStart map => m.matchStart now map
  | .matchEnd outcome => m.matchEnd outcome
  | .chat tag message => m.acting now tag id (.chat · message)
  | .teamChat tag message => m.acting now tag id (.teamChat · message)
  | .hostChat message => (m, [.hostChat message])
  | .voteCalled team topic tag params =>
    let m := m.touchOption now tag
    (m, [.voteCall team topic (tag.map (m.snapshot now)) params])
  | .voteResults team topic passed yes no => (m, [.voteResult team topic passed yes no])
  | .voteCancelled team topic => (m, [.voteCancel team topic])
  | .mapChanging map seamless => m.mapChanging map seamless
  | .mapLoaded map => m.mapLoaded map
  | .mapStart map => m.mapStart map
  | .consoleCommand user command => (m, [.consoleCommand user command])
  | .consoleSubscribed user => (m, [.consoleSubscribed user])
  | .consoleUnsubscribed user => (m, [.consoleUnsubscribed user])
  | .adminLogin tag level =>
    m.acting now tag ({ · with adminLevel := some level }) (.adminLogin · level)
  | .adminLogout tag level => m.acting now tag ({ · with adminLevel := none }) (.adminLogout · level)
  | .adminGranted tag level =>
    m.acting now tag ({ · with adminLevel := some level }) (.adminGrant · level)
  | .unknown .. => (m, [])

end Model

end RemoteConsole.Match
