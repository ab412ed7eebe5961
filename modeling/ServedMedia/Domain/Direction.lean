import ServedMedia.Domain.Mark

/-!
# Directions

A domain with right-to-left characters is read unambiguously if each of its
labels runs in one direction: it begins with a letter of that direction, holds
none of the other, and ends, marks aside, in a letter or a number.  Numbers of
both kinds do not mix from right to left.
-/

namespace ServedMedia.Domain

/-! ## Algorithm -/

inductive Direction where
  | leftToRight
  | rightToLeft
  | arabicNumber
  | europeanNumber
  | neutral
  | mark
  deriving DecidableEq, Repr

/-- Ranges of characters: letters from right to left have the value 1, Arabic numbers 2,
European numbers 3 and neutral characters 4.  What they say of nonspacing marks does not count. -/
def directionRanges : List Nat := [
  0x000000_00002F_04, 0x000030_000039_03, 0x00003A_000060_04, 0x00007B_0000D7_04,
  0x0000F7_0000F7_04, 0x0002B9_0002BA_04, 0x0002C2_0002CF_04, 0x0002D2_0002ED_04,
  0x0002EF_0002FF_04, 0x000375_000375_04, 0x0003F6_0003F6_04, 0x00058A_00058F_04,
  0x0005BE_0005F4_01, 0x000606_000607_04, 0x000608_000608_01, 0x000609_00060A_04,
  0x00060B_00060B_01, 0x00060C_00060C_04, 0x00060D_00060D_01, 0x00060E_00060F_04,
  0x00061B_00064A_01, 0x000660_000669_02, 0x00066A_00066A_04, 0x00066B_00066C_02,
  0x00066D_0006D5_01, 0x0006DE_0006DE_04, 0x0006E5_0006E6_01, 0x0006E9_0006E9_04,
  0x0006EE_0006EF_01, 0x0006F0_0006F9_03, 0x0006FA_0007F5_01, 0x0007F6_0007F9_04,
  0x0007FA_0008C9_01, 0x0009F2_0009F3_04, 0x0009FB_0009FB_04, 0x000AF1_000AF1_04,
  0x000BF3_000BFA_04, 0x000C78_000C7E_04, 0x000E3F_000E3F_04, 0x000F3A_000F3D_04,
  0x001390_001399_04, 0x001400_001400_04, 0x00169B_00169C_04, 0x0017DB_0017DB_04,
  0x0017F0_00180A_04, 0x001940_001945_04, 0x0019DE_0019FF_04, 0x00200C_00214D_04,
  0x00218A_002335_04, 0x00237B_002394_04, 0x002396_0026AB_04, 0x0026AD_0027FF_04,
  0x002900_002BFF_04, 0x002CE5_002CEA_04, 0x002CF9_002CFF_04, 0x002E00_003004_04,
  0x003008_003020_04, 0x003030_003030_04, 0x003037_003037_04, 0x00303D_00303F_04,
  0x0030A0_0030A0_04, 0x0030FB_0030FB_04, 0x0031C0_0031E5_04, 0x004DC0_004DFF_04,
  0x00A490_00A4C6_04, 0x00A60D_00A60F_04, 0x00A673_00A67F_04, 0x00A700_00A721_04,
  0x00A788_00A788_04, 0x00A828_00A82B_04, 0x00A838_00A839_04, 0x00A874_00A877_04,
  0x00AB6A_00AB6B_04, 0x00FBB2_00FBC2_01, 0x00FBC3_00FE46_04, 0x00FE73_00FE73_01,
  0x010101_010101_04, 0x010140_01018C_04, 0x010190_0101A0_04, 0x0102E1_0102FB_03,
  0x010800_01091B_01, 0x01091F_01091F_04, 0x010920_010B35_01, 0x010B39_010B3F_04,
  0x010B40_010D23_01, 0x010D30_010D39_02, 0x010D40_010D49_03, 0x010D4A_010D4F_01,
  0x010D6E_010D6E_04, 0x010D6F_010D8F_01, 0x010E60_010E7E_02, 0x010E80_010EC7_01,
  0x010ED0_010ED8_04, 0x010F00_010FF6_01, 0x011052_011065_04, 0x011660_01166C_04,
  0x011FD5_011FF1_04, 0x016FE2_016FE2_04, 0x01CC00_01CEF0_04, 0x01D1E9_01D245_04,
  0x01D300_01D356_04, 0x01E2FF_01E2FF_04, 0x01E800_01ED3D_01, 0x01EEF0_01F12F_04,
  0x01F16D_01F16F_04, 0x01F1AD_01F1AD_04, 0x01F260_01FBFA_04]

/-- The nonspacing marks that run from left to right. -/
def leftToRightMarks : List Nat := [0xCBF, 0xCC6, 0x11A07, 0x11A08, 0x11C3F]

/-- The direction of a character that a domain may hold. -/
def direction (c : Char) : Direction :=
  if isNonspacing c then if leftToRightMarks.contains c.toNat then .leftToRight else .mark
  else
    match Table.valueIn directionRanges c with
    | 1 => .rightToLeft
    | 2 => .arabicNumber
    | 3 => .europeanNumber
    | 4 => .neutral
    | _ => .leftToRight

namespace Direction

/-- What makes a domain one with right-to-left characters. -/
def isFromRight : Direction → Bool
  | .rightToLeft | .arabicNumber => true
  | _ => false

/-- Whether a label that runs from left to right may hold a character. -/
def fitsLeftToRight : Direction → Bool
  | .rightToLeft | .arabicNumber => false
  | _ => true

/-- Whether a label that runs from right to left may hold a character. -/
def fitsRightToLeft (d : Direction) : Bool := d != .leftToRight

/-- The directions up to the last one that is not of a mark. -/
def trimMarks (label : List Direction) : List Direction :=
  (label.reverse.dropWhile (· == .mark)).reverse

/-- Whether a label runs in one direction. -/
def isUniform (label : List Direction) : Bool :=
  let trimmed := trimMarks label
  match label.head?, trimmed.getLast? with
  | none, _ => true
  | some .leftToRight, some last =>
    trimmed.all fitsLeftToRight && [.leftToRight, .europeanNumber].contains last
  | some .rightToLeft, some last =>
    trimmed.all fitsRightToLeft &&
      [.rightToLeft, .europeanNumber, .arabicNumber].contains last &&
      !(trimmed.contains .europeanNumber && trimmed.contains .arabicNumber)
  | _, _ => false

end Direction

/-- Whether a character runs from right to left. -/
def isFromRight (c : Char) : Bool := (direction c).isFromRight

/-- Whether the characters of a label run in one direction. -/
def isUniform (label : List Char) : Bool := Direction.isUniform (label.map direction)

end ServedMedia.Domain
