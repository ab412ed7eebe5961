import ServedMedia.Domain.Mark
import ServedMedia.Text.Canonical.CombiningClass

/-!
# Joiners

Two characters without a shape tell their neighbours whether to join.  Either
may stand behind a virama; besides, the one that keeps letters apart may stand
between two that would join.

    no joiner is in text → joinersFit before text      (joinersFit_of_not_mem)
-/

namespace ServedMedia.Domain

/-! ## Algorithm -/

/-- The sides at which a character joins others. -/
inductive Joining where
  | none
  /-- To what follows it. -/
  | forward
  /-- To what precedes it. -/
  | backward
  | both
  /-- Its neighbours join across it. -/
  | transparent
  deriving DecidableEq, Repr

/-- Ranges of characters: those that join forward have the value 1, backward 2 and both
ways 3.  What they say of nonspacing marks does not count. -/
def joiningRanges : List Nat := [
  0x000620_000620_03, 0x000622_000625_02, 0x000626_000626_03, 0x000627_000627_02,
  0x000628_000628_03, 0x000629_000629_02, 0x00062A_00062E_03, 0x00062F_000632_02,
  0x000633_00063F_03, 0x000641_000647_03, 0x000648_000648_02, 0x000649_00064A_03,
  0x00066E_00066F_03, 0x000671_000673_02, 0x000679_000687_03, 0x000688_000699_02,
  0x00069A_0006BF_03, 0x0006C0_0006C0_02, 0x0006C1_0006C2_03, 0x0006C3_0006CB_02,
  0x0006CC_0006CC_03, 0x0006CD_0006CD_02, 0x0006CE_0006CE_03, 0x0006CF_0006CF_02,
  0x0006D0_0006D1_03, 0x0006D2_0006D3_02, 0x0006D5_0006D5_02, 0x0006EE_0006EF_02,
  0x0006FA_0006FC_03, 0x0006FF_0006FF_03, 0x000710_000710_02, 0x000712_000714_03,
  0x000715_000719_02, 0x00071A_00071D_03, 0x00071E_00071E_02, 0x00071F_000727_03,
  0x000728_000728_02, 0x000729_000729_03, 0x00072A_00072A_02, 0x00072B_00072B_03,
  0x00072C_00072C_02, 0x00072D_00072E_03, 0x00072F_00074D_02, 0x00074E_000758_03,
  0x000759_00075B_02, 0x00075C_00076A_03, 0x00076B_00076C_02, 0x00076D_000770_03,
  0x000771_000771_02, 0x000772_000772_03, 0x000773_000774_02, 0x000775_000777_03,
  0x000778_000779_02, 0x00077A_00077F_03, 0x0007CA_0007EA_03, 0x000840_000840_02,
  0x000841_000845_03, 0x000846_000847_02, 0x000848_000848_03, 0x000849_000849_02,
  0x00084A_000853_03, 0x000854_000854_02, 0x000855_000855_03, 0x000856_000858_02,
  0x000860_000860_03, 0x000862_000865_03, 0x000867_000867_02, 0x000868_000868_03,
  0x000869_000882_02, 0x000886_000886_03, 0x000889_00088D_03, 0x00088E_00088E_02,
  0x00088F_0008A9_03, 0x0008AA_0008AC_02, 0x0008AE_0008AE_02, 0x0008AF_0008B0_03,
  0x0008B1_0008B2_02, 0x0008B3_0008B8_03, 0x0008B9_0008B9_02, 0x0008BA_0008C8_03,
  0x001807_001807_03, 0x001820_001878_03, 0x001887_0018AA_03, 0x00A840_00A871_03,
  0x00A872_00A872_01, 0x010AC0_010AC4_03, 0x010AC5_010AC5_02, 0x010AC7_010AC7_02,
  0x010AC9_010ACA_02, 0x010ACD_010ACD_01, 0x010ACE_010AD2_02, 0x010AD3_010AD6_03,
  0x010AD7_010AD7_01, 0x010AD8_010ADC_03, 0x010ADD_010ADD_02, 0x010ADE_010AE0_03,
  0x010AE1_010AE1_02, 0x010AE4_010AE4_02, 0x010AEB_010AEE_03, 0x010AEF_010AEF_02,
  0x010B80_010B80_03, 0x010B81_010B81_02, 0x010B82_010B82_03, 0x010B83_010B85_02,
  0x010B86_010B88_03, 0x010B89_010B89_02, 0x010B8A_010B8B_03, 0x010B8C_010B8C_02,
  0x010B8D_010B8D_03, 0x010B8E_010B8F_02, 0x010B90_010B90_03, 0x010B91_010B91_02,
  0x010BA9_010BAC_02, 0x010BAD_010BAE_03, 0x010D00_010D00_01, 0x010D01_010D21_03,
  0x010D22_010D22_02, 0x010D23_010D23_03, 0x010EC2_010EC2_02, 0x010EC3_010EC4_03,
  0x010EC6_010EC7_03, 0x010F30_010F32_03, 0x010F33_010F33_02, 0x010F34_010F44_03,
  0x010F51_010F53_03, 0x010F54_010F54_02, 0x010F70_010F73_03, 0x010F74_010F75_02,
  0x010F76_010F81_03, 0x010FB0_010FB0_03, 0x010FB2_010FB3_03, 0x010FB4_010FB6_02,
  0x010FB8_010FB8_03, 0x010FB9_010FBA_02, 0x010FBB_010FBC_03, 0x010FBD_010FBD_02,
  0x010FBE_010FBF_03, 0x010FC1_010FC1_03, 0x010FC2_010FC3_02, 0x010FC4_010FC4_03,
  0x010FC9_010FC9_02, 0x010FCA_010FCA_03, 0x010FCB_010FCB_01, 0x01E922_01E943_03]

/-- How a character that a domain may hold joins others. -/
def joining (c : Char) : Joining :=
  if isNonspacing c || c.toNat == 0x1E94B then .transparent
  else
    match Table.valueIn joiningRanges c with
    | 1 => .forward
    | 2 => .backward
    | 3 => .both
    | _ => .none

/-- The first way of joining that is not transparent. -/
def firstJoining (text : List Char) : Joining :=
  ((text.map joining).find? (· != .transparent)).getD .none

/-- Whether the last character before a place and the first one behind it join, where
`before` goes backwards. -/
def joinAcross (before after : List Char) : Bool :=
  [.forward, .both].contains (firstJoining before) &&
    [.backward, .both].contains (firstJoining after)

/-- Keeps its neighbours apart. -/
def nonJoiner : Char := '\u200c'

def joiner : Char := '\u200d'

/-- Whether a character is a virama, by its combining class. -/
def isVirama (c : Char) : Bool := Canonical.combiningClass c == 9

/-- Whether every joiner of a text is in place, where `before` precedes it backwards. -/
def joinersFit (before : List Char) : List Char → Bool
  | [] => true
  | c :: rest =>
    let behindVirama := before.head?.any isVirama
    (if c = joiner then behindVirama
      else if c = nonJoiner then behindVirama || joinAcross before rest
      else true) && joinersFit (c :: before) rest

/-! ## Lemmas -/

theorem joinersFit_of_not_mem (before : List Char) {text : List Char}
    (h : ∀ c ∈ text, c ≠ joiner ∧ c ≠ nonJoiner) : joinersFit before text = true := by
  induction text generalizing before with
  | nil => rfl
  | cons c rest ih =>
    have hc := h c (by simp)
    simp [joinersFit, hc.1, hc.2, ih (c :: before) fun d hd => h d (by simp [hd])]

end ServedMedia.Domain
