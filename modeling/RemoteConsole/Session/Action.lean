import RemoteConsole.Session.State

namespace RemoteConsole.Session

inductive Action where
  | send (command : String)
  | say (message : String)
  | announce (message : String)
  | tell (id : PlayerId) (message : String)
  | kick (id : PlayerId) (reason : String)
  | endMatch (delay : Millis)
  | endMatchWhenEmpty
  | keepMatch
  | disconnect (reason : String)
  | terminate (reason : String)
  | remember (memory : List UInt8)
  | askWait
  | askModel

inductive Reply where
  | done
  | queued (bytes : Nat)
  | planned (was : Bool)
  | wait (backoff : Millis)
  | model (m : Match.Model)

def counted (r : Nat × Session) : Reply × Session :=
  (.queued r.1, r.2)

def act (t : Moment) (s : Session) : Action → Reply × Session
  | .send command => counted (s.send t.now command)
  | .say message => counted (s.say t.now message)
  | .announce message => counted (s.announce t.now message)
  | .tell id message => counted (s.tell t.now id message)
  | .kick id reason => counted (s.kick t.now id reason)
  | .endMatch delay => (.done, s.endMatch t.now delay)
  | .endMatchWhenEmpty => (.done, s.endMatchWhenEmpty)
  | .keepMatch => (.planned s.keepMatch.1, s.keepMatch.2)
  | .disconnect reason => (.done, s.disconnect t reason)
  | .terminate reason => (.done, s.terminate reason)
  | .remember memory => (.done, { s with memory })
  | .askWait => (.wait s.backoff, s)
  | .askModel => (.model s.model, s)

end RemoteConsole.Session
