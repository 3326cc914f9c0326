import HidRelay.Keyboard.Lookup

/-!
The scan codes as they are listed, all of them written out. The rows that a lookup searches leave most
releases to the rule of the set; spelled out, they are the entries here.
-/

set_option autoImplicit false

namespace HidRelay.Keyboard

inductive Cell where
  | silent
  | unassigned
  | bytes (code : Bytes)
deriving DecidableEq, Repr

structure Entry where
  usage : UInt16
  press1 : Cell
  release1 : Cell
  press2 : Cell
  release2 : Cell
deriving DecidableEq, Repr

def Entry.cell (entry : Entry) : ScanSet → Transition → Cell
  | .one, .press => entry.press1
  | .one, .release => entry.release1
  | .two, .press => entry.press2
  | .two, .release => entry.release2

namespace Listing

def systemControl : List Entry := [
  ⟨0x81, .bytes [0xE0, 0x5E], .bytes [0xE0, 0xDE], .bytes [0xE0, 0x37], .bytes [0xE0, 0xF0, 0x37]⟩,
  ⟨0x82, .bytes [0xE0, 0x5F], .bytes [0xE0, 0xDF], .bytes [0xE0, 0x3F], .bytes [0xE0, 0xF0, 0x3F]⟩,
  ⟨0x83, .bytes [0xE0, 0x63], .bytes [0xE0, 0xE3], .bytes [0xE0, 0x5E], .bytes [0xE0, 0xF0, 0x5E]⟩]

def keyboard : List Entry := [
  ⟨0x00, .silent, .silent, .silent, .silent⟩,
  ⟨0x01, .bytes [0xFF], .silent, .bytes [0x00], .silent⟩,
  ⟨0x02, .bytes [0xFC], .silent, .bytes [0xFC], .silent⟩,
  ⟨0x03, .unassigned, .unassigned, .unassigned, .unassigned⟩,
  ⟨0x04, .bytes [0x1E], .bytes [0x9E], .bytes [0x1C], .bytes [0xF0, 0x1C]⟩,
  ⟨0x05, .bytes [0x30], .bytes [0xB0], .bytes [0x32], .bytes [0xF0, 0x32]⟩,
  ⟨0x06, .bytes [0x2E], .bytes [0xAE], .bytes [0x21], .bytes [0xF0, 0x21]⟩,
  ⟨0x07, .bytes [0x20], .bytes [0xA0], .bytes [0x23], .bytes [0xF0, 0x23]⟩,
  ⟨0x08, .bytes [0x12], .bytes [0x92], .bytes [0x24], .bytes [0xF0, 0x24]⟩,
  ⟨0x09, .bytes [0x21], .bytes [0xA1], .bytes [0x2B], .bytes [0xF0, 0x2B]⟩,
  ⟨0x0A, .bytes [0x22], .bytes [0xA2], .bytes [0x34], .bytes [0xF0, 0x34]⟩,
  ⟨0x0B, .bytes [0x23], .bytes [0xA3], .bytes [0x33], .bytes [0xF0, 0x33]⟩,
  ⟨0x0C, .bytes [0x17], .bytes [0x97], .bytes [0x43], .bytes [0xF0, 0x43]⟩,
  ⟨0x0D, .bytes [0x24], .bytes [0xA4], .bytes [0x3B], .bytes [0xF0, 0x3B]⟩,
  ⟨0x0E, .bytes [0x25], .bytes [0xA5], .bytes [0x42], .bytes [0xF0, 0x42]⟩,
  ⟨0x0F, .bytes [0x26], .bytes [0xA6], .bytes [0x4B], .bytes [0xF0, 0x4B]⟩,
  ⟨0x10, .bytes [0x32], .bytes [0xB2], .bytes [0x3A], .bytes [0xF0, 0x3A]⟩,
  ⟨0x11, .bytes [0x31], .bytes [0xB1], .bytes [0x31], .bytes [0xF0, 0x31]⟩,
  ⟨0x12, .bytes [0x18], .bytes [0x98], .bytes [0x44], .bytes [0xF0, 0x44]⟩,
  ⟨0x13, .bytes [0x19], .bytes [0x99], .bytes [0x4D], .bytes [0xF0, 0x4D]⟩,
  ⟨0x14, .bytes [0x10], .bytes [0x90], .bytes [0x15], .bytes [0xF0, 0x15]⟩,
  ⟨0x15, .bytes [0x13], .bytes [0x93], .bytes [0x2D], .bytes [0xF0, 0x2D]⟩,
  ⟨0x16, .bytes [0x1F], .bytes [0x9F], .bytes [0x1B], .bytes [0xF0, 0x1B]⟩,
  ⟨0x17, .bytes [0x14], .bytes [0x94], .bytes [0x2C], .bytes [0xF0, 0x2C]⟩,
  ⟨0x18, .bytes [0x16], .bytes [0x96], .bytes [0x3C], .bytes [0xF0, 0x3C]⟩,
  ⟨0x19, .bytes [0x2F], .bytes [0xAF], .bytes [0x2A], .bytes [0xF0, 0x2A]⟩,
  ⟨0x1A, .bytes [0x11], .bytes [0x91], .bytes [0x1D], .bytes [0xF0, 0x1D]⟩,
  ⟨0x1B, .bytes [0x2D], .bytes [0xAD], .bytes [0x22], .bytes [0xF0, 0x22]⟩,
  ⟨0x1C, .bytes [0x15], .bytes [0x95], .bytes [0x35], .bytes [0xF0, 0x35]⟩,
  ⟨0x1D, .bytes [0x2C], .bytes [0xAC], .bytes [0x1A], .bytes [0xF0, 0x1A]⟩,
  ⟨0x1E, .bytes [0x02], .bytes [0x82], .bytes [0x16], .bytes [0xF0, 0x16]⟩,
  ⟨0x1F, .bytes [0x03], .bytes [0x83], .bytes [0x1E], .bytes [0xF0, 0x1E]⟩,
  ⟨0x20, .bytes [0x04], .bytes [0x84], .bytes [0x26], .bytes [0xF0, 0x26]⟩,
  ⟨0x21, .bytes [0x05], .bytes [0x85], .bytes [0x25], .bytes [0xF0, 0x25]⟩,
  ⟨0x22, .bytes [0x06], .bytes [0x86], .bytes [0x2E], .bytes [0xF0, 0x2E]⟩,
  ⟨0x23, .bytes [0x07], .bytes [0x87], .bytes [0x36], .bytes [0xF0, 0x36]⟩,
  ⟨0x24, .bytes [0x08], .bytes [0x88], .bytes [0x3D], .bytes [0xF0, 0x3D]⟩,
  ⟨0x25, .bytes [0x09], .bytes [0x89], .bytes [0x3E], .bytes [0xF0, 0x3E]⟩,
  ⟨0x26, .bytes [0x0A], .bytes [0x8A], .bytes [0x46], .bytes [0xF0, 0x46]⟩,
  ⟨0x27, .bytes [0x0B], .bytes [0x8B], .bytes [0x45], .bytes [0xF0, 0x45]⟩,
  ⟨0x28, .bytes [0x1C], .bytes [0x9C], .bytes [0x5A], .bytes [0xF0, 0x5A]⟩,
  ⟨0x29, .bytes [0x01], .bytes [0x81], .bytes [0x76], .bytes [0xF0, 0x76]⟩,
  ⟨0x2A, .bytes [0x0E], .bytes [0x8E], .bytes [0x66], .bytes [0xF0, 0x66]⟩,
  ⟨0x2B, .bytes [0x0F], .bytes [0x8F], .bytes [0x0D], .bytes [0xF0, 0x0D]⟩,
  ⟨0x2C, .bytes [0x39], .bytes [0xB9], .bytes [0x29], .bytes [0xF0, 0x29]⟩,
  ⟨0x2D, .bytes [0x0C], .bytes [0x8C], .bytes [0x4E], .bytes [0xF0, 0x4E]⟩,
  ⟨0x2E, .bytes [0x0D], .bytes [0x8D], .bytes [0x55], .bytes [0xF0, 0x55]⟩,
  ⟨0x2F, .bytes [0x1A], .bytes [0x9A], .bytes [0x54], .bytes [0xF0, 0x54]⟩,
  ⟨0x30, .bytes [0x1B], .bytes [0x9B], .bytes [0x5B], .bytes [0xF0, 0x5B]⟩,
  ⟨0x31, .bytes [0x2B], .bytes [0xAB], .bytes [0x5D], .bytes [0xF0, 0x5D]⟩,
  ⟨0x32, .bytes [0x2B], .bytes [0xAB], .bytes [0x5D], .bytes [0xF0, 0x5D]⟩,
  ⟨0x33, .bytes [0x27], .bytes [0xA7], .bytes [0x4C], .bytes [0xF0, 0x4C]⟩,
  ⟨0x34, .bytes [0x28], .bytes [0xA8], .bytes [0x52], .bytes [0xF0, 0x52]⟩,
  ⟨0x35, .bytes [0x29], .bytes [0xA9], .bytes [0x0E], .bytes [0xF0, 0x0E]⟩,
  ⟨0x36, .bytes [0x33], .bytes [0xB3], .bytes [0x41], .bytes [0xF0, 0x41]⟩,
  ⟨0x37, .bytes [0x34], .bytes [0xB4], .bytes [0x49], .bytes [0xF0, 0x49]⟩,
  ⟨0x38, .bytes [0x35], .bytes [0xB5], .bytes [0x4A], .bytes [0xF0, 0x4A]⟩,
  ⟨0x39, .bytes [0x3A], .bytes [0xBA], .bytes [0x58], .bytes [0xF0, 0x58]⟩,
  ⟨0x3A, .bytes [0x3B], .bytes [0xBB], .bytes [0x05], .bytes [0xF0, 0x05]⟩,
  ⟨0x3B, .bytes [0x3C], .bytes [0xBC], .bytes [0x06], .bytes [0xF0, 0x06]⟩,
  ⟨0x3C, .bytes [0x3D], .bytes [0xBD], .bytes [0x04], .bytes [0xF0, 0x04]⟩,
  ⟨0x3D, .bytes [0x3E], .bytes [0xBE], .bytes [0x0C], .bytes [0xF0, 0x0C]⟩,
  ⟨0x3E, .bytes [0x3F], .bytes [0xBF], .bytes [0x03], .bytes [0xF0, 0x03]⟩,
  ⟨0x3F, .bytes [0x40], .bytes [0xC0], .bytes [0x0B], .bytes [0xF0, 0x0B]⟩,
  ⟨0x40, .bytes [0x41], .bytes [0xC1], .bytes [0x83], .bytes [0xF0, 0x83]⟩,
  ⟨0x41, .bytes [0x42], .bytes [0xC2], .bytes [0x0A], .bytes [0xF0, 0x0A]⟩,
  ⟨0x42, .bytes [0x43], .bytes [0xC3], .bytes [0x01], .bytes [0xF0, 0x01]⟩,
  ⟨0x43, .bytes [0x44], .bytes [0xC4], .bytes [0x09], .bytes [0xF0, 0x09]⟩,
  ⟨0x44, .bytes [0x57], .bytes [0xD7], .bytes [0x78], .bytes [0xF0, 0x78]⟩,
  ⟨0x45, .bytes [0x58], .bytes [0xD8], .bytes [0x07], .bytes [0xF0, 0x07]⟩,
  ⟨0x46, .bytes [0xE0, 0x37], .bytes [0xE0, 0xB7], .bytes [0xE0, 0x7C], .bytes [0xE0, 0xF0, 0x7C]⟩,
  ⟨0x47, .bytes [0x46], .bytes [0xC6], .bytes [0x7E], .bytes [0xF0, 0x7E]⟩,
  ⟨0x48, .bytes [0xE1, 0x1D, 0x45, 0xE1, 0x9D, 0xC5], .silent, .bytes [0xE1, 0x14, 0x77, 0xE1, 0xF0, 0x14, 0xF0, 0x77], .silent⟩,
  ⟨0x49, .bytes [0xE0, 0x52], .bytes [0xE0, 0xD2], .bytes [0xE0, 0x70], .bytes [0xE0, 0xF0, 0x70]⟩,
  ⟨0x4A, .bytes [0xE0, 0x47], .bytes [0xE0, 0xC7], .bytes [0xE0, 0x6C], .bytes [0xE0, 0xF0, 0x6C]⟩,
  ⟨0x4B, .bytes [0xE0, 0x49], .bytes [0xE0, 0xC9], .bytes [0xE0, 0x7D], .bytes [0xE0, 0xF0, 0x7D]⟩,
  ⟨0x4C, .bytes [0xE0, 0x53], .bytes [0xE0, 0xD3], .bytes [0xE0, 0x71], .bytes [0xE0, 0xF0, 0x71]⟩,
  ⟨0x4D, .bytes [0xE0, 0x4F], .bytes [0xE0, 0xCF], .bytes [0xE0, 0x69], .bytes [0xE0, 0xF0, 0x69]⟩,
  ⟨0x4E, .bytes [0xE0, 0x51], .bytes [0xE0, 0xD1], .bytes [0xE0, 0x7A], .bytes [0xE0, 0xF0, 0x7A]⟩,
  ⟨0x4F, .bytes [0xE0, 0x4D], .bytes [0xE0, 0xCD], .bytes [0xE0, 0x74], .bytes [0xE0, 0xF0, 0x74]⟩,
  ⟨0x50, .bytes [0xE0, 0x4B], .bytes [0xE0, 0xCB], .bytes [0xE0, 0x6B], .bytes [0xE0, 0xF0, 0x6B]⟩,
  ⟨0x51, .bytes [0xE0, 0x50], .bytes [0xE0, 0xD0], .bytes [0xE0, 0x72], .bytes [0xE0, 0xF0, 0x72]⟩,
  ⟨0x52, .bytes [0xE0, 0x48], .bytes [0xE0, 0xC8], .bytes [0xE0, 0x75], .bytes [0xE0, 0xF0, 0x75]⟩,
  ⟨0x53, .bytes [0x45], .bytes [0xC5], .bytes [0x77], .bytes [0xF0, 0x77]⟩,
  ⟨0x54, .bytes [0xE0, 0x35], .bytes [0xE0, 0xB5], .bytes [0xE0, 0x4A], .bytes [0xE0, 0xF0, 0x4A]⟩,
  ⟨0x55, .bytes [0x37], .bytes [0xB7], .bytes [0x7C], .bytes [0xF0, 0x7C]⟩,
  ⟨0x56, .bytes [0x4A], .bytes [0xCA], .bytes [0x7B], .bytes [0xF0, 0x7B]⟩,
  ⟨0x57, .bytes [0x4E], .bytes [0xCE], .bytes [0x79], .bytes [0xF0, 0x79]⟩,
  ⟨0x58, .bytes [0xE0, 0x1C], .bytes [0xE0, 0x9C], .bytes [0xE0, 0x5A], .bytes [0xE0, 0xF0, 0x5A]⟩,
  ⟨0x59, .bytes [0x4F], .bytes [0xCF], .bytes [0x69], .bytes [0xF0, 0x69]⟩,
  ⟨0x5A, .bytes [0x50], .bytes [0xD0], .bytes [0x72], .bytes [0xF0, 0x72]⟩,
  ⟨0x5B, .bytes [0x51], .bytes [0xD1], .bytes [0x7A], .bytes [0xF0, 0x7A]⟩,
  ⟨0x5C, .bytes [0x4B], .bytes [0xCB], .bytes [0x6B], .bytes [0xF0, 0x6B]⟩,
  ⟨0x5D, .bytes [0x4C], .bytes [0xCC], .bytes [0x73], .bytes [0xF0, 0x73]⟩,
  ⟨0x5E, .bytes [0x4D], .bytes [0xCD], .bytes [0x74], .bytes [0xF0, 0x74]⟩,
  ⟨0x5F, .bytes [0x47], .bytes [0xC7], .bytes [0x6C], .bytes [0xF0, 0x6C]⟩,
  ⟨0x60, .bytes [0x48], .bytes [0xC8], .bytes [0x75], .bytes [0xF0, 0x75]⟩,
  ⟨0x61, .bytes [0x49], .bytes [0xC9], .bytes [0x7D], .bytes [0xF0, 0x7D]⟩,
  ⟨0x62, .bytes [0x52], .bytes [0xD2], .bytes [0x70], .bytes [0xF0, 0x70]⟩,
  ⟨0x63, .bytes [0x53], .bytes [0xD3], .bytes [0x71], .bytes [0xF0, 0x71]⟩,
  ⟨0x64, .bytes [0x56], .bytes [0xD6], .bytes [0x61], .bytes [0xF0, 0x61]⟩,
  ⟨0x65, .bytes [0xE0, 0x5D], .bytes [0xE0, 0xDD], .bytes [0xE0, 0x2F], .bytes [0xE0, 0xF0, 0x2F]⟩,
  ⟨0x66, .bytes [0xE0, 0x5E], .bytes [0xE0, 0xDE], .bytes [0xE0, 0x37], .bytes [0xE0, 0xF0, 0x37]⟩,
  ⟨0x67, .bytes [0x59], .bytes [0xD9], .bytes [0x0F], .bytes [0xF0, 0x0F]⟩,
  ⟨0x68, .bytes [0x64], .bytes [0xE4], .bytes [0x08], .bytes [0xF0, 0x08]⟩,
  ⟨0x69, .bytes [0x65], .bytes [0xE5], .bytes [0x10], .bytes [0xF0, 0x10]⟩,
  ⟨0x6A, .bytes [0x66], .bytes [0xE6], .bytes [0x18], .bytes [0xF0, 0x18]⟩,
  ⟨0x6B, .bytes [0x67], .bytes [0xE7], .bytes [0x20], .bytes [0xF0, 0x20]⟩,
  ⟨0x6C, .bytes [0x68], .bytes [0xE8], .bytes [0x28], .bytes [0xF0, 0x28]⟩,
  ⟨0x6D, .bytes [0x69], .bytes [0xE9], .bytes [0x30], .bytes [0xF0, 0x30]⟩,
  ⟨0x6E, .bytes [0x6A], .bytes [0xEA], .bytes [0x38], .bytes [0xF0, 0x38]⟩,
  ⟨0x6F, .bytes [0x6B], .bytes [0xEB], .bytes [0x40], .bytes [0xF0, 0x40]⟩,
  ⟨0x70, .bytes [0x6C], .bytes [0xEC], .bytes [0x48], .bytes [0xF0, 0x48]⟩,
  ⟨0x71, .bytes [0x6D], .bytes [0xED], .bytes [0x50], .bytes [0xF0, 0x50]⟩,
  ⟨0x72, .bytes [0x6E], .bytes [0xEE], .bytes [0x57], .bytes [0xF0, 0x57]⟩,
  ⟨0x73, .bytes [0x76], .bytes [0xF6], .bytes [0x5F], .bytes [0xF0, 0x5F]⟩,
  ⟨0x74, .unassigned, .unassigned, .unassigned, .unassigned⟩,
  ⟨0x75, .unassigned, .unassigned, .unassigned, .unassigned⟩,
  ⟨0x76, .unassigned, .unassigned, .unassigned, .unassigned⟩,
  ⟨0x77, .unassigned, .unassigned, .unassigned, .unassigned⟩,
  ⟨0x78, .unassigned, .unassigned, .unassigned, .unassigned⟩,
  ⟨0x79, .unassigned, .unassigned, .unassigned, .unassigned⟩,
  ⟨0x7A, .unassigned, .unassigned, .unassigned, .unassigned⟩,
  ⟨0x7B, .unassigned, .unassigned, .unassigned, .unassigned⟩,
  ⟨0x7C, .unassigned, .unassigned, .unassigned, .unassigned⟩,
  ⟨0x7D, .unassigned, .unassigned, .unassigned, .unassigned⟩,
  ⟨0x7E, .unassigned, .unassigned, .unassigned, .unassigned⟩,
  ⟨0x7F, .unassigned, .unassigned, .unassigned, .unassigned⟩,
  ⟨0x80, .unassigned, .unassigned, .unassigned, .unassigned⟩,
  ⟨0x81, .unassigned, .unassigned, .unassigned, .unassigned⟩,
  ⟨0x82, .unassigned, .unassigned, .unassigned, .unassigned⟩,
  ⟨0x83, .unassigned, .unassigned, .unassigned, .unassigned⟩,
  ⟨0x84, .unassigned, .unassigned, .unassigned, .unassigned⟩,
  ⟨0x85, .bytes [0x7E], .bytes [0xFE], .bytes [0x6D], .bytes [0xF0, 0x6D]⟩,
  ⟨0x86, .unassigned, .unassigned, .unassigned, .unassigned⟩,
  ⟨0x87, .bytes [0x73], .bytes [0xF3], .bytes [0x51], .bytes [0xF0, 0x51]⟩,
  ⟨0x88, .bytes [0x70], .bytes [0xF0], .bytes [0x13], .bytes [0xF0, 0x13]⟩,
  ⟨0x89, .bytes [0x7D], .bytes [0xFD], .bytes [0x6A], .bytes [0xF0, 0x6A]⟩,
  ⟨0x8A, .bytes [0x79], .bytes [0xF9], .bytes [0x64], .bytes [0xF0, 0x64]⟩,
  ⟨0x8B, .bytes [0x7B], .bytes [0xFB], .bytes [0x67], .bytes [0xF0, 0x67]⟩,
  ⟨0x8C, .bytes [0x5C], .bytes [0xDC], .bytes [0x27], .bytes [0xF0, 0x27]⟩,
  ⟨0x8D, .unassigned, .unassigned, .unassigned, .unassigned⟩,
  ⟨0x8E, .unassigned, .unassigned, .unassigned, .unassigned⟩,
  ⟨0x8F, .unassigned, .unassigned, .unassigned, .unassigned⟩,
  ⟨0x90, .bytes [0xF2], .silent, .bytes [0xF2], .silent⟩,
  ⟨0x91, .bytes [0xF1], .silent, .bytes [0xF1], .silent⟩,
  ⟨0x92, .bytes [0x78], .bytes [0xF8], .bytes [0x63], .bytes [0xF0, 0x63]⟩,
  ⟨0x93, .bytes [0x77], .bytes [0xF7], .bytes [0x62], .bytes [0xF0, 0x62]⟩,
  ⟨0x94, .bytes [0x76], .bytes [0xF6], .bytes [0x5F], .bytes [0xF0, 0x5F]⟩,
  ⟨0x95, .unassigned, .unassigned, .unassigned, .unassigned⟩,
  ⟨0x96, .unassigned, .unassigned, .unassigned, .unassigned⟩,
  ⟨0x97, .unassigned, .unassigned, .unassigned, .unassigned⟩,
  ⟨0x98, .unassigned, .unassigned, .unassigned, .unassigned⟩,
  ⟨0x99, .unassigned, .unassigned, .unassigned, .unassigned⟩,
  ⟨0x9A, .unassigned, .unassigned, .unassigned, .unassigned⟩,
  ⟨0x9B, .unassigned, .unassigned, .unassigned, .unassigned⟩,
  ⟨0x9C, .unassigned, .unassigned, .unassigned, .unassigned⟩,
  ⟨0x9D, .unassigned, .unassigned, .unassigned, .unassigned⟩,
  ⟨0x9E, .unassigned, .unassigned, .unassigned, .unassigned⟩,
  ⟨0x9F, .unassigned, .unassigned, .unassigned, .unassigned⟩,
  ⟨0xA0, .unassigned, .unassigned, .unassigned, .unassigned⟩,
  ⟨0xA1, .unassigned, .unassigned, .unassigned, .unassigned⟩,
  ⟨0xA2, .unassigned, .unassigned, .unassigned, .unassigned⟩,
  ⟨0xA3, .unassigned, .unassigned, .unassigned, .unassigned⟩,
  ⟨0xA4, .unassigned, .unassigned, .unassigned, .unassigned⟩,
  ⟨0xE0, .bytes [0x1D], .bytes [0x9D], .bytes [0x14], .bytes [0xF0, 0x14]⟩,
  ⟨0xE1, .bytes [0x2A], .bytes [0xAA], .bytes [0x12], .bytes [0xF0, 0x12]⟩,
  ⟨0xE2, .bytes [0x38], .bytes [0xB8], .bytes [0x11], .bytes [0xF0, 0x11]⟩,
  ⟨0xE3, .bytes [0xE0, 0x5B], .bytes [0xE0, 0xDB], .bytes [0xE0, 0x1F], .bytes [0xE0, 0xF0, 0x1F]⟩,
  ⟨0xE4, .bytes [0xE0, 0x1D], .bytes [0xE0, 0x9D], .bytes [0xE0, 0x14], .bytes [0xE0, 0xF0, 0x14]⟩,
  ⟨0xE5, .bytes [0x36], .bytes [0xB6], .bytes [0x59], .bytes [0xF0, 0x59]⟩,
  ⟨0xE6, .bytes [0xE0, 0x38], .bytes [0xE0, 0xB8], .bytes [0xE0, 0x11], .bytes [0xE0, 0xF0, 0x11]⟩,
  ⟨0xE7, .bytes [0xE0, 0x5C], .bytes [0xE0, 0xDC], .bytes [0xE0, 0x27], .bytes [0xE0, 0xF0, 0x27]⟩]

def consumer : List Entry := [
  ⟨0x00B5, .bytes [0xE0, 0x19], .bytes [0xE0, 0x99], .bytes [0xE0, 0x4D], .bytes [0xE0, 0xF0, 0x4D]⟩,
  ⟨0x00B6, .bytes [0xE0, 0x10], .bytes [0xE0, 0x90], .bytes [0xE0, 0x15], .bytes [0xE0, 0xF0, 0x15]⟩,
  ⟨0x00B7, .bytes [0xE0, 0x24], .bytes [0xE0, 0xA4], .bytes [0xE0, 0x3B], .bytes [0xE0, 0xF0, 0x3B]⟩,
  ⟨0x00CD, .bytes [0xE0, 0x22], .bytes [0xE0, 0xA2], .bytes [0xE0, 0x34], .bytes [0xE0, 0xF0, 0x34]⟩,
  ⟨0x00E2, .bytes [0xE0, 0x20], .bytes [0xE0, 0xA0], .bytes [0xE0, 0x23], .bytes [0xE0, 0xF0, 0x23]⟩,
  ⟨0x00E5, .unassigned, .unassigned, .unassigned, .unassigned⟩,
  ⟨0x00E7, .unassigned, .unassigned, .unassigned, .unassigned⟩,
  ⟨0x00E9, .bytes [0xE0, 0x30], .bytes [0xE0, 0xB0], .bytes [0xE0, 0x32], .bytes [0xE0, 0xF0, 0x32]⟩,
  ⟨0x00EA, .bytes [0xE0, 0x2E], .bytes [0xE0, 0xAE], .bytes [0xE0, 0x21], .bytes [0xE0, 0xF0, 0x21]⟩,
  ⟨0x0152, .unassigned, .unassigned, .unassigned, .unassigned⟩,
  ⟨0x0153, .unassigned, .unassigned, .unassigned, .unassigned⟩,
  ⟨0x0154, .unassigned, .unassigned, .unassigned, .unassigned⟩,
  ⟨0x0155, .unassigned, .unassigned, .unassigned, .unassigned⟩,
  ⟨0x0183, .bytes [0xE0, 0x6D], .bytes [0xE0, 0xED], .bytes [0xE0, 0x50], .bytes [0xE0, 0xF0, 0x50]⟩,
  ⟨0x018A, .bytes [0xE0, 0x6C], .bytes [0xE0, 0xEC], .bytes [0xE0, 0x48], .bytes [0xE0, 0xF0, 0x48]⟩,
  ⟨0x0192, .bytes [0xE0, 0x21], .bytes [0xE0, 0xA1], .bytes [0xE0, 0x2B], .bytes [0xE0, 0xF0, 0x2B]⟩,
  ⟨0x0194, .bytes [0xE0, 0x6B], .bytes [0xE0, 0xEB], .bytes [0xE0, 0x40], .bytes [0xE0, 0xF0, 0x40]⟩,
  ⟨0x0221, .bytes [0xE0, 0x65], .bytes [0xE0, 0xE5], .bytes [0xE0, 0x10], .bytes [0xE0, 0xF0, 0x10]⟩,
  ⟨0x0223, .bytes [0xE0, 0x32], .bytes [0xE0, 0xB2], .bytes [0xE0, 0x3A], .bytes [0xE0, 0xF0, 0x3A]⟩,
  ⟨0x0224, .bytes [0xE0, 0x6A], .bytes [0xE0, 0xEA], .bytes [0xE0, 0x38], .bytes [0xE0, 0xF0, 0x38]⟩,
  ⟨0x0225, .bytes [0xE0, 0x69], .bytes [0xE0, 0xE9], .bytes [0xE0, 0x30], .bytes [0xE0, 0xF0, 0x30]⟩,
  ⟨0x0226, .bytes [0xE0, 0x68], .bytes [0xE0, 0xE8], .bytes [0xE0, 0x28], .bytes [0xE0, 0xF0, 0x28]⟩,
  ⟨0x0227, .bytes [0xE0, 0x67], .bytes [0xE0, 0xE7], .bytes [0xE0, 0x20], .bytes [0xE0, 0xF0, 0x20]⟩,
  ⟨0x022A, .bytes [0xE0, 0x66], .bytes [0xE0, 0xE6], .bytes [0xE0, 0x18], .bytes [0xE0, 0xF0, 0x18]⟩]

-- Generic Desktop, Keyboard/Keypad and Consumer. No other page has a listing.
def ofPage (page : UInt16) : List Entry :=
  if page = 0x01 then systemControl
  else if page = 0x07 then keyboard
  else if page = 0x0C then consumer
  else []

end Listing

def InOrder (usages : List UInt16) : Prop := usages.Pairwise (· < ·)

instance (usages : List UInt16) : Decidable (InOrder usages) :=
  inferInstanceAs (Decidable (usages.Pairwise (· < ·)))

def ScanCode.cell : ScanCode → Cell
  | .silent => .silent
  | .bytes sequence => .bytes sequence

def KeyCode.cell (set : ScanSet) (transition : Transition) (code : KeyCode) : Cell :=
  ((code.scanCode set transition).map ScanCode.cell).getD .unassigned

def Row.entry (row : Row) : Entry :=
  ⟨row.usage, row.code.cell .one .press, row.code.cell .one .release, row.code.cell .two .press, row.code.cell .two .release⟩

theorem entry_cell (row : Row) (set : ScanSet) (transition : Transition) :
    row.entry.cell set transition = row.code.cell set transition := by
  cases set <;> cases transition <;> rfl

namespace Listing

theorem system_control_listed : ScanTable.systemControl.toList.map Row.entry = systemControl := by decide +kernel

theorem keyboard_listed : ScanTable.keyboard.toList.map Row.entry = keyboard := by decide +kernel

theorem consumer_listed : ScanTable.consumer.toList.map Row.entry = consumer := by decide +kernel

theorem rows_listed (page : UInt16) : (rowsOfPage page).toList.map Row.entry = ofPage page := by
  unfold rowsOfPage UsagePage.ofCode ofPage
  by_cases desktop : page = 0x01
  · simp only [if_pos desktop, system_control_listed]
  by_cases keys : page = 0x07
  · simp only [if_neg desktop, if_pos keys, keyboard_listed]
  by_cases led : page = 0x08
  · subst led
    rfl
  by_cases button : page = 0x09
  · subst button
    rfl
  by_cases media : page = 0x0C
  · simp only [if_neg desktop, if_neg keys, if_neg led, if_neg button, if_pos media, consumer_listed]
  · simp only [if_neg desktop, if_neg keys, if_neg led, if_neg button, if_neg media, List.map_nil]

theorem in_order (page : UInt16) : InOrder ((ofPage page).map (·.usage)) := by
  unfold ofPage
  split
  · decide +kernel
  split
  · decide +kernel
  split
  · decide +kernel
  · exact List.Pairwise.nil

theorem rows_in_order (page : UInt16) : InOrder ((rowsOfPage page).toList.map (·.usage)) := by
  have ordered := in_order page
  rw [← rows_listed, List.map_map] at ordered
  exact ordered

end Listing
end HidRelay.Keyboard
