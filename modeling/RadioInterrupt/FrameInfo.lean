import RadioInterrupt.Outcome

/-!
What is kept of the last accepted frame beside its bytes: the length that it had on the air and the
link figures.  The length is a 16-bit word, and a longer frame is recorded with the largest word.
-/

namespace RadioInterrupt

structure FrameInfo where
  length : UInt16 := 0
  rssi : Int16 := 0
  snr : Int8 := 0
  deriving DecidableEq, Repr

namespace FrameInfo

def clampLength (length : Nat) : UInt16 :=
  UInt16.ofNat (min length 65535)

def ofLength (length : Nat) (rssi : Int16) (snr : Int8) : FrameInfo :=
  ⟨clampLength length, rssi, snr⟩

def ofFrame (frame : Frame) : FrameInfo :=
  ofLength frame.payload.length frame.rssi frame.snr

def toJson (info : FrameInfo) : String :=
  "\x7b\"len\":" ++ toString info.length.toNat ++ ",\"rssi\":" ++ toString info.rssi.toInt ++
    ",\"snr\":" ++ toString info.snr.toInt ++ "\x7d"

@[simp] theorem toNat_clampLength (n : Nat) : (clampLength n).toNat = min n 65535 := by
  simp only [clampLength, UInt16.toNat_ofNat']
  omega

end FrameInfo

end RadioInterrupt
