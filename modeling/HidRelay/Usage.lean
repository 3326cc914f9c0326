set_option autoImplicit false

namespace HidRelay

inductive UsagePage where
  | genericDesktop
  | keyboard
  | led
  | button
  | consumer
  | unknown (code : UInt16)
deriving DecidableEq, Repr

namespace UsagePage

def ofCode (code : UInt16) : UsagePage :=
  if code = 0x01 then .genericDesktop
  else if code = 0x07 then .keyboard
  else if code = 0x08 then .led
  else if code = 0x09 then .button
  else if code = 0x0C then .consumer
  else .unknown code

def code : UsagePage → UInt16
  | .genericDesktop => 0x01
  | .keyboard => 0x07
  | .led => 0x08
  | .button => 0x09
  | .consumer => 0x0C
  | .unknown code => code

end UsagePage

namespace Usage

namespace Desktop
def pointer : UInt16 := 0x01
def mouse : UInt16 := 0x02
def keyboard : UInt16 := 0x06
def keypad : UInt16 := 0x07
def x : UInt16 := 0x30
def y : UInt16 := 0x31
def wheel : UInt16 := 0x38
def systemControl : UInt16 := 0x80
end Desktop

namespace Consumer
def control : UInt16 := 0x0001
def pan : UInt16 := 0x0238
end Consumer

end Usage
end HidRelay
