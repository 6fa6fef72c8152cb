import RadioInterrupt.Outcome
import RadioInterrupt.PostQueue
import RadioInterrupt.Registration
import RadioInterrupt.Settings

/-!
Notes that handlers and drivers leave of what they did and saw.
-/

namespace RadioInterrupt

inductive PostAnswer where
  | accepted
  | refused (refusal : Refusal)
  | noSender
  deriving DecidableEq, Repr

inductive Command where
  | sleep
  | setChannel (hertz : UInt32)
  | setPublicNetwork (enable : Bool)
  | configureTransmit (config : TransmitConfig)
  | configureReceive (config : ReceiveConfig)
  | send (payload : Bytes)
  /-- A timeout of zero receives continuously. -/
  | receive (timeout : UInt32)
  deriving DecidableEq, Repr

def Command.name : Command → String
  | .sleep => "sleep"
  | .setChannel _ => "set_channel"
  | .setPublicNetwork _ => "set_public_network"
  | .configureTransmit _ => "set_tx_config"
  | .configureReceive _ => "set_rx_config"
  | .send _ => "send"
  | .receive _ => "rx"

inductive Note where
  /-- A handler ran; its runs are counted from one. -/
  | ran (handler : String) (run : Nat)
  | looked (seen : Option Outcome)
  | posted (answer : PostAnswer)
  | registered (answer : RequestAnswer)
  | broughtUp
  | commanded (command : Command)
  deriving DecidableEq, Repr

end RadioInterrupt
