import HidRelay.Keyboard.ScanCode

set_option autoImplicit false

namespace HidRelay.Keyboard.ScanTable

def systemControl : Array Row := #[
  ⟨0x81, .full [0xE0, 0x5E] [0xE0, 0x37]⟩,           -- System Power
  ⟨0x82, .full [0xE0, 0x5F] [0xE0, 0x3F]⟩,           -- System Sleep
  ⟨0x83, .full [0xE0, 0x63] [0xE0, 0x5E]⟩]           -- System Wake

def keyboard : Array Row := #[
  ⟨0x00, .silent⟩,                                   -- No event
  ⟨0x01, .pressOnly [0xFF] [0x00]⟩,                  -- Rollover error
  ⟨0x02, .pressOnly [0xFC] [0xFC]⟩,                  -- Self test failure
  ⟨0x03, .unassigned⟩,                               -- Undefined error
  ⟨0x04, .full [0x1E] [0x1C]⟩,                       -- A
  ⟨0x05, .full [0x30] [0x32]⟩,                       -- B
  ⟨0x06, .full [0x2E] [0x21]⟩,                       -- C
  ⟨0x07, .full [0x20] [0x23]⟩,                       -- D
  ⟨0x08, .full [0x12] [0x24]⟩,                       -- E
  ⟨0x09, .full [0x21] [0x2B]⟩,                       -- F
  ⟨0x0A, .full [0x22] [0x34]⟩,                       -- G
  ⟨0x0B, .full [0x23] [0x33]⟩,                       -- H
  ⟨0x0C, .full [0x17] [0x43]⟩,                       -- I
  ⟨0x0D, .full [0x24] [0x3B]⟩,                       -- J
  ⟨0x0E, .full [0x25] [0x42]⟩,                       -- K
  ⟨0x0F, .full [0x26] [0x4B]⟩,                       -- L
  ⟨0x10, .full [0x32] [0x3A]⟩,                       -- M
  ⟨0x11, .full [0x31] [0x31]⟩,                       -- N
  ⟨0x12, .full [0x18] [0x44]⟩,                       -- O
  ⟨0x13, .full [0x19] [0x4D]⟩,                       -- P
  ⟨0x14, .full [0x10] [0x15]⟩,                       -- Q
  ⟨0x15, .full [0x13] [0x2D]⟩,                       -- R
  ⟨0x16, .full [0x1F] [0x1B]⟩,                       -- S
  ⟨0x17, .full [0x14] [0x2C]⟩,                       -- T
  ⟨0x18, .full [0x16] [0x3C]⟩,                       -- U
  ⟨0x19, .full [0x2F] [0x2A]⟩,                       -- V
  ⟨0x1A, .full [0x11] [0x1D]⟩,                       -- W
  ⟨0x1B, .full [0x2D] [0x22]⟩,                       -- X
  ⟨0x1C, .full [0x15] [0x35]⟩,                       -- Y
  ⟨0x1D, .full [0x2C] [0x1A]⟩,                       -- Z
  ⟨0x1E, .full [0x02] [0x16]⟩,                       -- 1 and Exclamation
  ⟨0x1F, .full [0x03] [0x1E]⟩,                       -- 2 and At
  ⟨0x20, .full [0x04] [0x26]⟩,                       -- 3 and Hash
  ⟨0x21, .full [0x05] [0x25]⟩,                       -- 4 and Dollar
  ⟨0x22, .full [0x06] [0x2E]⟩,                       -- 5 and Percent
  ⟨0x23, .full [0x07] [0x36]⟩,                       -- 6 and Caret
  ⟨0x24, .full [0x08] [0x3D]⟩,                       -- 7 and Ampersand
  ⟨0x25, .full [0x09] [0x3E]⟩,                       -- 8 and Asterisk
  ⟨0x26, .full [0x0A] [0x46]⟩,                       -- 9 and Open Paren
  ⟨0x27, .full [0x0B] [0x45]⟩,                       -- 0 and Close Paren
  ⟨0x28, .full [0x1C] [0x5A]⟩,                       -- Return
  ⟨0x29, .full [0x01] [0x76]⟩,                       -- Escape
  ⟨0x2A, .full [0x0E] [0x66]⟩,                       -- Backspace
  ⟨0x2B, .full [0x0F] [0x0D]⟩,                       -- Tab
  ⟨0x2C, .full [0x39] [0x29]⟩,                       -- Space
  ⟨0x2D, .full [0x0C] [0x4E]⟩,                       -- Hyphen Minus Underscore
  ⟨0x2E, .full [0x0D] [0x55]⟩,                       -- Equal Plus
  ⟨0x2F, .full [0x1A] [0x54]⟩,                       -- Open Bracket Open Brace
  ⟨0x30, .full [0x1B] [0x5B]⟩,                       -- Close Bracket Close Brace
  ⟨0x31, .full [0x2B] [0x5D]⟩,                       -- Backslash Pipe
  ⟨0x32, .full [0x2B] [0x5D]⟩,                       -- Europe 1
  ⟨0x33, .full [0x27] [0x4C]⟩,                       -- Semicolon Colon
  ⟨0x34, .full [0x28] [0x52]⟩,                       -- Single Quote Double Quote
  ⟨0x35, .full [0x29] [0x0E]⟩,                       -- Backtick Tilde
  ⟨0x36, .full [0x33] [0x41]⟩,                       -- Comma Less Than
  ⟨0x37, .full [0x34] [0x49]⟩,                       -- Dot Greater Than
  ⟨0x38, .full [0x35] [0x4A]⟩,                       -- Slash Question
  ⟨0x39, .full [0x3A] [0x58]⟩,                       -- Caps Lock
  ⟨0x3A, .full [0x3B] [0x05]⟩,                       -- F1
  ⟨0x3B, .full [0x3C] [0x06]⟩,                       -- F2
  ⟨0x3C, .full [0x3D] [0x04]⟩,                       -- F3
  ⟨0x3D, .full [0x3E] [0x0C]⟩,                       -- F4
  ⟨0x3E, .full [0x3F] [0x03]⟩,                       -- F5
  ⟨0x3F, .full [0x40] [0x0B]⟩,                       -- F6
  ⟨0x40, .full [0x41] [0x83]⟩,                       -- F7
  ⟨0x41, .full [0x42] [0x0A]⟩,                       -- F8
  ⟨0x42, .full [0x43] [0x01]⟩,                       -- F9
  ⟨0x43, .full [0x44] [0x09]⟩,                       -- F10
  ⟨0x44, .full [0x57] [0x78]⟩,                       -- F11
  ⟨0x45, .full [0x58] [0x07]⟩,                       -- F12
  ⟨0x46, .full [0xE0, 0x37] [0xE0, 0x7C]⟩,           -- Print Screen
  ⟨0x47, .full [0x46] [0x7E]⟩,                       -- Scroll Lock
  ⟨0x48, .pressOnly [0xE1, 0x1D, 0x45, 0xE1, 0x9D, 0xC5] [0xE1, 0x14, 0x77, 0xE1, 0xF0, 0x14, 0xF0, 0x77]⟩, -- Pause
  ⟨0x49, .full [0xE0, 0x52] [0xE0, 0x70]⟩,           -- Insert
  ⟨0x4A, .full [0xE0, 0x47] [0xE0, 0x6C]⟩,           -- Home
  ⟨0x4B, .full [0xE0, 0x49] [0xE0, 0x7D]⟩,           -- Page Up
  ⟨0x4C, .full [0xE0, 0x53] [0xE0, 0x71]⟩,           -- Delete
  ⟨0x4D, .full [0xE0, 0x4F] [0xE0, 0x69]⟩,           -- End
  ⟨0x4E, .full [0xE0, 0x51] [0xE0, 0x7A]⟩,           -- Page Down
  ⟨0x4F, .full [0xE0, 0x4D] [0xE0, 0x74]⟩,           -- Right Arrow
  ⟨0x50, .full [0xE0, 0x4B] [0xE0, 0x6B]⟩,           -- Left Arrow
  ⟨0x51, .full [0xE0, 0x50] [0xE0, 0x72]⟩,           -- Down Arrow
  ⟨0x52, .full [0xE0, 0x48] [0xE0, 0x75]⟩,           -- Up Arrow
  ⟨0x53, .full [0x45] [0x77]⟩,                       -- Num Lock
  ⟨0x54, .full [0xE0, 0x35] [0xE0, 0x4A]⟩,           -- Keypad Slash
  ⟨0x55, .full [0x37] [0x7C]⟩,                       -- Keypad Asterisk
  ⟨0x56, .full [0x4A] [0x7B]⟩,                       -- Keypad Minus
  ⟨0x57, .full [0x4E] [0x79]⟩,                       -- Keypad Plus
  ⟨0x58, .full [0xE0, 0x1C] [0xE0, 0x5A]⟩,           -- Keypad Enter
  ⟨0x59, .full [0x4F] [0x69]⟩,                       -- Keypad 1 and End
  ⟨0x5A, .full [0x50] [0x72]⟩,                       -- Keypad 2 and Down
  ⟨0x5B, .full [0x51] [0x7A]⟩,                       -- Keypad 3 and Page Down
  ⟨0x5C, .full [0x4B] [0x6B]⟩,                       -- Keypad 4 and Left
  ⟨0x5D, .full [0x4C] [0x73]⟩,                       -- Keypad 5
  ⟨0x5E, .full [0x4D] [0x74]⟩,                       -- Keypad 6 and Right
  ⟨0x5F, .full [0x47] [0x6C]⟩,                       -- Keypad 7 and Home
  ⟨0x60, .full [0x48] [0x75]⟩,                       -- Keypad 8 and Up
  ⟨0x61, .full [0x49] [0x7D]⟩,                       -- Keypad 9 and Page Up
  ⟨0x62, .full [0x52] [0x70]⟩,                       -- Keypad 0 and Insert
  ⟨0x63, .full [0x53] [0x71]⟩,                       -- Keypad Dot Delete
  ⟨0x64, .full [0x56] [0x61]⟩,                       -- Europe 2
  ⟨0x65, .full [0xE0, 0x5D] [0xE0, 0x2F]⟩,           -- App
  ⟨0x66, .full [0xE0, 0x5E] [0xE0, 0x37]⟩,           -- Power
  ⟨0x67, .full [0x59] [0x0F]⟩,                       -- Keypad Equal
  ⟨0x68, .full [0x64] [0x08]⟩,                       -- F13
  ⟨0x69, .full [0x65] [0x10]⟩,                       -- F14
  ⟨0x6A, .full [0x66] [0x18]⟩,                       -- F15
  ⟨0x6B, .full [0x67] [0x20]⟩,                       -- F16
  ⟨0x6C, .full [0x68] [0x28]⟩,                       -- F17
  ⟨0x6D, .full [0x69] [0x30]⟩,                       -- F18
  ⟨0x6E, .full [0x6A] [0x38]⟩,                       -- F19
  ⟨0x6F, .full [0x6B] [0x40]⟩,                       -- F20
  ⟨0x70, .full [0x6C] [0x48]⟩,                       -- F21
  ⟨0x71, .full [0x6D] [0x50]⟩,                       -- F22
  ⟨0x72, .full [0x6E] [0x57]⟩,                       -- F23
  ⟨0x73, .full [0x76] [0x5F]⟩,                       -- F24
  ⟨0x74, .unassigned⟩,                               -- Execute
  ⟨0x75, .unassigned⟩,                               -- Help
  ⟨0x76, .unassigned⟩,                               -- Menu
  ⟨0x77, .unassigned⟩,                               -- Select
  ⟨0x78, .unassigned⟩,                               -- Stop
  ⟨0x79, .unassigned⟩,                               -- Again
  ⟨0x7A, .unassigned⟩,                               -- Undo
  ⟨0x7B, .unassigned⟩,                               -- Cut
  ⟨0x7C, .unassigned⟩,                               -- Copy
  ⟨0x7D, .unassigned⟩,                               -- Paste
  ⟨0x7E, .unassigned⟩,                               -- Find
  ⟨0x7F, .unassigned⟩,                               -- Mute
  ⟨0x80, .unassigned⟩,                               -- Volume Up
  ⟨0x81, .unassigned⟩,                               -- Volume Down
  ⟨0x82, .unassigned⟩,                               -- Locking Caps Lock
  ⟨0x83, .unassigned⟩,                               -- Locking Num Lock
  ⟨0x84, .unassigned⟩,                               -- Locking Scroll Lock
  ⟨0x85, .full [0x7E] [0x6D]⟩,                       -- Keypad Comma
  ⟨0x86, .unassigned⟩,                               -- Equal Sign
  ⟨0x87, .full [0x73] [0x51]⟩,                       -- Ro
  ⟨0x88, .full [0x70] [0x13]⟩,                       -- Katakana Hiragana
  ⟨0x89, .full [0x7D] [0x6A]⟩,                       -- Yen
  ⟨0x8A, .full [0x79] [0x64]⟩,                       -- Henkan
  ⟨0x8B, .full [0x7B] [0x67]⟩,                       -- Muhenkan
  ⟨0x8C, .full [0x5C] [0x27]⟩,                       -- PC9800 Keypad Comma
  ⟨0x8D, .unassigned⟩,                               -- International 7
  ⟨0x8E, .unassigned⟩,                               -- International 8
  ⟨0x8F, .unassigned⟩,                               -- International 9
  ⟨0x90, .pressOnly [0xF2] [0xF2]⟩,                  -- Hanguel English
  ⟨0x91, .pressOnly [0xF1] [0xF1]⟩,                  -- Hanja
  ⟨0x92, .full [0x78] [0x63]⟩,                       -- Katakana
  ⟨0x93, .full [0x77] [0x62]⟩,                       -- Hiragana
  ⟨0x94, .full [0x76] [0x5F]⟩,                       -- Zenkaku Hankaku
  ⟨0x95, .unassigned⟩,                               -- Lang 6
  ⟨0x96, .unassigned⟩,                               -- Lang 7
  ⟨0x97, .unassigned⟩,                               -- Lang 8
  ⟨0x98, .unassigned⟩,                               -- Lang 9
  ⟨0x99, .unassigned⟩,                               -- Alternate Erase
  ⟨0x9A, .unassigned⟩,                               -- Sys Req Attention
  ⟨0x9B, .unassigned⟩,                               -- Cancel
  ⟨0x9C, .unassigned⟩,                               -- Clear
  ⟨0x9D, .unassigned⟩,                               -- Prior
  ⟨0x9E, .unassigned⟩,                               -- Return
  ⟨0x9F, .unassigned⟩,                               -- Separator
  ⟨0xA0, .unassigned⟩,                               -- Out
  ⟨0xA1, .unassigned⟩,                               -- Oper
  ⟨0xA2, .unassigned⟩,                               -- Clear Again
  ⟨0xA3, .unassigned⟩,                               -- CrSel Props
  ⟨0xA4, .unassigned⟩,                               -- ExSel
  ⟨0xE0, .full [0x1D] [0x14]⟩,                       -- Left Control
  ⟨0xE1, .full [0x2A] [0x12]⟩,                       -- Left Shift
  ⟨0xE2, .full [0x38] [0x11]⟩,                       -- Left Alt
  ⟨0xE3, .full [0xE0, 0x5B] [0xE0, 0x1F]⟩,           -- Left GUI
  ⟨0xE4, .full [0xE0, 0x1D] [0xE0, 0x14]⟩,           -- Right Control
  ⟨0xE5, .full [0x36] [0x59]⟩,                       -- Right Shift
  ⟨0xE6, .full [0xE0, 0x38] [0xE0, 0x11]⟩,           -- Right Alt
  ⟨0xE7, .full [0xE0, 0x5C] [0xE0, 0x27]⟩]           -- Right GUI

def consumer : Array Row := #[
  ⟨0x00B5, .full [0xE0, 0x19] [0xE0, 0x4D]⟩,         -- Scan Next Track
  ⟨0x00B6, .full [0xE0, 0x10] [0xE0, 0x15]⟩,         -- Scan Previous Track
  ⟨0x00B7, .full [0xE0, 0x24] [0xE0, 0x3B]⟩,         -- Stop
  ⟨0x00CD, .full [0xE0, 0x22] [0xE0, 0x34]⟩,         -- Play Pause
  ⟨0x00E2, .full [0xE0, 0x20] [0xE0, 0x23]⟩,         -- Mute
  ⟨0x00E5, .unassigned⟩,                             -- Bass Boost
  ⟨0x00E7, .unassigned⟩,                             -- Loudness
  ⟨0x00E9, .full [0xE0, 0x30] [0xE0, 0x32]⟩,         -- Volume Up
  ⟨0x00EA, .full [0xE0, 0x2E] [0xE0, 0x21]⟩,         -- Volume Down
  ⟨0x0152, .unassigned⟩,                             -- Bass Up
  ⟨0x0153, .unassigned⟩,                             -- Bass Down
  ⟨0x0154, .unassigned⟩,                             -- Treble Up
  ⟨0x0155, .unassigned⟩,                             -- Treble Down
  ⟨0x0183, .full [0xE0, 0x6D] [0xE0, 0x50]⟩,         -- Media Select
  ⟨0x018A, .full [0xE0, 0x6C] [0xE0, 0x48]⟩,         -- Mail
  ⟨0x0192, .full [0xE0, 0x21] [0xE0, 0x2B]⟩,         -- Calculator
  ⟨0x0194, .full [0xE0, 0x6B] [0xE0, 0x40]⟩,         -- My Computer
  ⟨0x0221, .full [0xE0, 0x65] [0xE0, 0x10]⟩,         -- WWW Search
  ⟨0x0223, .full [0xE0, 0x32] [0xE0, 0x3A]⟩,         -- WWW Home
  ⟨0x0224, .full [0xE0, 0x6A] [0xE0, 0x38]⟩,         -- WWW Back
  ⟨0x0225, .full [0xE0, 0x69] [0xE0, 0x30]⟩,         -- WWW Forward
  ⟨0x0226, .full [0xE0, 0x68] [0xE0, 0x28]⟩,         -- WWW Stop
  ⟨0x0227, .full [0xE0, 0x67] [0xE0, 0x20]⟩,         -- WWW Refresh
  ⟨0x022A, .full [0xE0, 0x66] [0xE0, 0x18]⟩]         -- WWW Favorites

end HidRelay.Keyboard.ScanTable
