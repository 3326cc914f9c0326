import HidRelay.Word

set_option autoImplicit false

namespace HidRelay.Descriptor

inductive BootDevice where
  | keyboard
  | mouse
deriving DecidableEq, Repr

namespace BootDevice

def keyboardDescriptor : Bytes := [
  0x05, 0x01,         -- Usage Page (Generic Desktop)
  0x09, 0x06,         -- Usage (Keyboard)
  0xA1, 0x01,         -- Collection (Application)
  0x05, 0x07,         --   Usage Page (Keyboard/Keypad)
  0x19, 0xE0,         --   Usage Minimum (Left Control)
  0x29, 0xE7,         --   Usage Maximum (Right GUI)
  0x15, 0x00,         --   Logical Minimum (0)
  0x25, 0x01,         --   Logical Maximum (1)
  0x75, 0x01,         --   Report Size (1)
  0x95, 0x08,         --   Report Count (8)
  0x81, 0x02,         --   Input (Data, Variable, Absolute)
  0x95, 0x01,         --   Report Count (1)
  0x75, 0x08,         --   Report Size (8)
  0x81, 0x01,         --   Input (Constant), padding
  0x05, 0x08,         --   Usage Page (LEDs)
  0x19, 0x01,         --   Usage Minimum (Num Lock)
  0x29, 0x05,         --   Usage Maximum (Kana)
  0x95, 0x05,         --   Report Count (5)
  0x75, 0x01,         --   Report Size (1)
  0x91, 0x02,         --   Output (Data, Variable, Absolute)
  0x95, 0x01,         --   Report Count (1)
  0x75, 0x03,         --   Report Size (3)
  0x91, 0x01,         --   Output (Constant), padding
  0x05, 0x07,         --   Usage Page (Keyboard/Keypad)
  0x19, 0x00,         --   Usage Minimum (0)
  0x29, 0xFF,         --   Usage Maximum (255)
  0x15, 0x00,         --   Logical Minimum (0)
  0x26, 0xFF, 0x00,   --   Logical Maximum (255)
  0x95, 0x06,         --   Report Count (6)
  0x75, 0x08,         --   Report Size (8)
  0x81, 0x00,         --   Input (Data, Array)
  0xC0]               -- End Collection

def mouseDescriptor : Bytes := [
  0x05, 0x01,         -- Usage Page (Generic Desktop)
  0x09, 0x02,         -- Usage (Mouse)
  0xA1, 0x01,         -- Collection (Application)
  0x09, 0x01,         --   Usage (Pointer)
  0xA1, 0x00,         --   Collection (Physical)
  0x05, 0x09,         --     Usage Page (Buttons)
  0x19, 0x01,         --     Usage Minimum (Button 1)
  0x29, 0x03,         --     Usage Maximum (Button 3)
  0x15, 0x00,         --     Logical Minimum (0)
  0x25, 0x01,         --     Logical Maximum (1)
  0x95, 0x03,         --     Report Count (3)
  0x75, 0x01,         --     Report Size (1)
  0x81, 0x02,         --     Input (Data, Variable, Absolute)
  0x95, 0x01,         --     Report Count (1)
  0x75, 0x05,         --     Report Size (5)
  0x81, 0x01,         --     Input (Constant), padding
  0x05, 0x01,         --     Usage Page (Generic Desktop)
  0x09, 0x30,         --     Usage (X)
  0x09, 0x31,         --     Usage (Y)
  0x15, 0x81,         --     Logical Minimum (-127)
  0x25, 0x7F,         --     Logical Maximum (127)
  0x75, 0x08,         --     Report Size (8)
  0x95, 0x02,         --     Report Count (2)
  0x81, 0x06,         --     Input (Data, Variable, Relative)
  0x09, 0x38,         --     Usage (Wheel)
  0x15, 0x81,         --     Logical Minimum (-127)
  0x25, 0x7F,         --     Logical Maximum (127)
  0x75, 0x08,         --     Report Size (8)
  0x95, 0x01,         --     Report Count (1)
  0x81, 0x06,         --     Input (Data, Variable, Relative)
  0xC0,               --   End Collection (Physical)
  0xC0]               -- End Collection (Application)

def descriptor : BootDevice → Bytes
  | .keyboard => keyboardDescriptor
  | .mouse => mouseDescriptor

def reportLength : BootDevice → Nat
  | .keyboard => 8
  | .mouse => 4

end BootDevice
end HidRelay.Descriptor
