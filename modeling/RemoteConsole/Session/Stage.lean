namespace RemoteConsole.Session

inductive Stage where
  | disconnected
  | connecting
  | handshaking
  | subscribing
  | fullyConnected
  | travelling
  deriving DecidableEq, Inhabited

namespace Stage

def toString : Stage → String
  | disconnected => "disconnected"
  | connecting => "connecting"
  | handshaking => "handshaking"
  | subscribing => "subscribing"
  | fullyConnected => "fully connected"
  | travelling => "travelling"

def isOpen : Stage → Bool
  | disconnected | connecting => false
  | handshaking | subscribing | fullyConnected | travelling => true

end Stage

end RemoteConsole.Session
