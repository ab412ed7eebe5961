import ServedMedia.Text.Table

/-!
# Canonical combining classes

The characters whose canonical combining class is not zero, by the Unicode
Character Database.
-/

namespace ServedMedia.Canonical

/-- Ranges of characters of one class. -/
def combiningRanges : List Nat := [
  0x000300_000314_E6, 0x000315_000315_E8, 0x000316_000319_DC, 0x00031A_00031A_E8,
  0x00031B_00031B_D8, 0x00031C_000320_DC, 0x000321_000322_CA, 0x000323_000326_DC,
  0x000327_000328_CA, 0x000329_000333_DC, 0x000334_000338_01, 0x000339_00033C_DC,
  0x00033D_000344_E6, 0x000345_000345_F0, 0x000346_000346_E6, 0x000347_000349_DC,
  0x00034A_00034C_E6, 0x00034D_00034E_DC, 0x000350_000352_E6, 0x000353_000356_DC,
  0x000357_000357_E6, 0x000358_000358_E8, 0x000359_00035A_DC, 0x00035B_00035B_E6,
  0x00035C_00035C_E9, 0x00035D_00035E_EA, 0x00035F_00035F_E9, 0x000360_000361_EA,
  0x000362_000362_E9, 0x000363_00036F_E6, 0x000483_000487_E6, 0x000591_000591_DC,
  0x000592_000595_E6, 0x000596_000596_DC, 0x000597_000599_E6, 0x00059A_00059A_DE,
  0x00059B_00059B_DC, 0x00059C_0005A1_E6, 0x0005A2_0005A7_DC, 0x0005A8_0005A9_E6,
  0x0005AA_0005AA_DC, 0x0005AB_0005AC_E6, 0x0005AD_0005AD_DE, 0x0005AE_0005AE_E4,
  0x0005AF_0005AF_E6, 0x0005B0_0005B0_0A, 0x0005B1_0005B1_0B, 0x0005B2_0005B2_0C,
  0x0005B3_0005B3_0D, 0x0005B4_0005B4_0E, 0x0005B5_0005B5_0F, 0x0005B6_0005B6_10,
  0x0005B7_0005B7_11, 0x0005B8_0005B8_12, 0x0005B9_0005BA_13, 0x0005BB_0005BB_14,
  0x0005BC_0005BC_15, 0x0005BD_0005BD_16, 0x0005BF_0005BF_17, 0x0005C1_0005C1_18,
  0x0005C2_0005C2_19, 0x0005C4_0005C4_E6, 0x0005C5_0005C5_DC, 0x0005C7_0005C7_12,
  0x0005C8_0005C9_DC, 0x000610_000617_E6, 0x000618_000618_1E, 0x000619_000619_1F,
  0x00061A_00061A_20, 0x00064B_00064B_1B, 0x00064C_00064C_1C, 0x00064D_00064D_1D,
  0x00064E_00064E_1E, 0x00064F_00064F_1F, 0x000650_000650_20, 0x000651_000651_21,
  0x000652_000652_22, 0x000653_000654_E6, 0x000655_000656_DC, 0x000657_00065B_E6,
  0x00065C_00065C_DC, 0x00065D_00065E_E6, 0x00065F_00065F_DC, 0x000670_000670_23,
  0x0006D6_0006DC_E6, 0x0006DF_0006E2_E6, 0x0006E3_0006E3_DC, 0x0006E4_0006E4_E6,
  0x0006E7_0006E8_E6, 0x0006EA_0006EA_DC, 0x0006EB_0006EC_E6, 0x0006ED_0006ED_DC,
  0x000711_000711_24, 0x000730_000730_E6, 0x000731_000731_DC, 0x000732_000733_E6,
  0x000734_000734_DC, 0x000735_000736_E6, 0x000737_000739_DC, 0x00073A_00073A_E6,
  0x00073B_00073C_DC, 0x00073D_00073D_E6, 0x00073E_00073E_DC, 0x00073F_000741_E6,
  0x000742_000742_DC, 0x000743_000743_E6, 0x000744_000744_DC, 0x000745_000745_E6,
  0x000746_000746_DC, 0x000747_000747_E6, 0x000748_000748_DC, 0x000749_00074A_E6,
  0x0007EB_0007F1_E6, 0x0007F2_0007F2_DC, 0x0007F3_0007F3_E6, 0x0007FD_0007FD_DC,
  0x000816_000819_E6, 0x00081B_000823_E6, 0x000825_000827_E6, 0x000829_00082D_E6,
  0x000859_00085B_DC, 0x000897_000898_E6, 0x000899_00089B_DC, 0x00089C_00089F_E6,
  0x0008CA_0008CE_E6, 0x0008CF_0008D3_DC, 0x0008D4_0008E1_E6, 0x0008E3_0008E3_DC,
  0x0008E4_0008E5_E6, 0x0008E6_0008E6_DC, 0x0008E7_0008E8_E6, 0x0008E9_0008E9_DC,
  0x0008EA_0008EC_E6, 0x0008ED_0008EF_DC, 0x0008F0_0008F0_1B, 0x0008F1_0008F1_1C,
  0x0008F2_0008F2_1D, 0x0008F3_0008F5_E6, 0x0008F6_0008F6_DC, 0x0008F7_0008F8_E6,
  0x0008F9_0008FA_DC, 0x0008FB_0008FF_E6, 0x00093C_00093C_07, 0x00094D_00094D_09,
  0x000951_000951_E6, 0x000952_000952_DC, 0x000953_000954_E6, 0x0009BC_0009BC_07,
  0x0009CD_0009CD_09, 0x0009FE_0009FE_E6, 0x000A3C_000A3C_07, 0x000A4D_000A4D_09,
  0x000ABC_000ABC_07, 0x000ACD_000ACD_09, 0x000B3C_000B3C_07, 0x000B4D_000B4D_09,
  0x000BCD_000BCD_09, 0x000C3C_000C3C_07, 0x000C4D_000C4D_09, 0x000C55_000C55_54,
  0x000C56_000C56_5B, 0x000CBC_000CBC_07, 0x000CCD_000CCD_09, 0x000D3B_000D3C_09,
  0x000D4D_000D4D_09, 0x000DCA_000DCA_09, 0x000E38_000E39_67, 0x000E3A_000E3A_09,
  0x000E48_000E4B_6B, 0x000EB8_000EB9_76, 0x000EBA_000EBA_09, 0x000EC8_000ECB_7A,
  0x000F18_000F19_DC, 0x000F35_000F35_DC, 0x000F37_000F37_DC, 0x000F39_000F39_D8,
  0x000F71_000F71_81, 0x000F72_000F72_82, 0x000F74_000F74_84, 0x000F7A_000F7D_82,
  0x000F80_000F80_82, 0x000F82_000F83_E6, 0x000F84_000F84_09, 0x000F86_000F87_E6,
  0x000FC6_000FC6_DC, 0x001037_001037_07, 0x001039_00103A_09, 0x00108D_00108D_DC,
  0x00135D_00135F_E6, 0x001714_001715_09, 0x001734_001734_09, 0x0017D2_0017D2_09,
  0x0017DD_0017DD_E6, 0x0018A9_0018A9_E4, 0x001939_001939_DE, 0x00193A_00193A_E6,
  0x00193B_00193B_DC, 0x001A17_001A17_E6, 0x001A18_001A18_DC, 0x001A60_001A60_09,
  0x001A75_001A7C_E6, 0x001A7F_001A7F_DC, 0x001AB0_001AB4_E6, 0x001AB5_001ABA_DC,
  0x001ABB_001ABC_E6, 0x001ABD_001ABD_DC, 0x001ABF_001AC0_DC, 0x001AC1_001AC2_E6,
  0x001AC3_001AC4_DC, 0x001AC5_001AC9_E6, 0x001ACA_001ACA_DC, 0x001ACB_001ADC_E6,
  0x001ADD_001ADD_DC, 0x001AE0_001AE5_E6, 0x001AE6_001AE6_DC, 0x001AE7_001AEA_E6,
  0x001AEB_001AEB_EA, 0x001AEC_001AF0_E6, 0x001B34_001B34_07, 0x001B44_001B44_09,
  0x001B6B_001B6B_E6, 0x001B6C_001B6C_DC, 0x001B6D_001B73_E6, 0x001BAA_001BAB_09,
  0x001BE6_001BE6_07, 0x001BF2_001BF3_09, 0x001C37_001C37_07, 0x001CD0_001CD2_E6,
  0x001CD4_001CD4_01, 0x001CD5_001CD9_DC, 0x001CDA_001CDB_E6, 0x001CDC_001CDF_DC,
  0x001CE0_001CE0_E6, 0x001CE2_001CE8_01, 0x001CED_001CED_DC, 0x001CF4_001CF4_E6,
  0x001CF8_001CF9_E6, 0x001DC0_001DC1_E6, 0x001DC2_001DC2_DC, 0x001DC3_001DC9_E6,
  0x001DCA_001DCA_DC, 0x001DCB_001DCC_E6, 0x001DCD_001DCD_EA, 0x001DCE_001DCE_D6,
  0x001DCF_001DCF_DC, 0x001DD0_001DD0_CA, 0x001DD1_001DF5_E6, 0x001DF6_001DF6_E8,
  0x001DF7_001DF8_E4, 0x001DF9_001DF9_DC, 0x001DFA_001DFA_DA, 0x001DFB_001DFB_E6,
  0x001DFC_001DFC_E9, 0x001DFD_001DFD_DC, 0x001DFE_001DFE_E6, 0x001DFF_001DFF_DC,
  0x0020D0_0020D1_E6, 0x0020D2_0020D3_01, 0x0020D4_0020D7_E6, 0x0020D8_0020DA_01,
  0x0020DB_0020DC_E6, 0x0020E1_0020E1_E6, 0x0020E5_0020E6_01, 0x0020E7_0020E7_E6,
  0x0020E8_0020E8_DC, 0x0020E9_0020E9_E6, 0x0020EA_0020EB_01, 0x0020EC_0020EF_DC,
  0x0020F0_0020F0_E6, 0x002CEF_002CF1_E6, 0x002D7F_002D7F_09, 0x002DE0_002DFF_E6,
  0x00302A_00302A_DA, 0x00302B_00302B_E4, 0x00302C_00302C_E8, 0x00302D_00302D_DE,
  0x00302E_00302F_E0, 0x003099_00309A_08, 0x00A66F_00A66F_E6, 0x00A674_00A67D_E6,
  0x00A69E_00A69F_E6, 0x00A6F0_00A6F1_E6, 0x00A806_00A806_09, 0x00A82C_00A82C_09,
  0x00A8C4_00A8C4_09, 0x00A8E0_00A8F1_E6, 0x00A92B_00A92D_DC, 0x00A953_00A953_09,
  0x00A9B3_00A9B3_07, 0x00A9C0_00A9C0_09, 0x00AAB0_00AAB0_E6, 0x00AAB2_00AAB3_E6,
  0x00AAB4_00AAB4_DC, 0x00AAB7_00AAB8_E6, 0x00AABE_00AABF_E6, 0x00AAC1_00AAC1_E6,
  0x00AAF6_00AAF6_09, 0x00ABED_00ABED_09, 0x00FB1E_00FB1E_1A, 0x00FE20_00FE26_E6,
  0x00FE27_00FE2D_DC, 0x00FE2E_00FE2F_E6, 0x0101FD_0101FD_DC, 0x0102E0_0102E0_DC,
  0x010376_01037A_E6, 0x010A0D_010A0D_DC, 0x010A0F_010A0F_E6, 0x010A38_010A38_E6,
  0x010A39_010A39_01, 0x010A3A_010A3A_DC, 0x010A3F_010A3F_09, 0x010AE5_010AE5_E6,
  0x010AE6_010AE6_DC, 0x010D24_010D27_E6, 0x010D69_010D6D_E6, 0x010EAB_010EAC_E6,
  0x010ECB_010ECC_DC, 0x010EF3_010EFB_DC, 0x010EFD_010EFF_DC, 0x010F46_010F47_DC,
  0x010F48_010F4A_E6, 0x010F4B_010F4B_DC, 0x010F4C_010F4C_E6, 0x010F4D_010F50_DC,
  0x010F82_010F82_E6, 0x010F83_010F83_DC, 0x010F84_010F84_E6, 0x010F85_010F85_DC,
  0x011046_011046_09, 0x011070_011070_09, 0x01107F_01107F_09, 0x0110B9_0110B9_09,
  0x0110BA_0110BA_07, 0x011100_011102_E6, 0x011133_011134_09, 0x011173_011173_07,
  0x0111C0_0111C0_09, 0x0111CA_0111CA_07, 0x011235_011235_09, 0x011236_011236_07,
  0x0112E9_0112E9_07, 0x0112EA_0112EA_09, 0x01133B_01133C_07, 0x01134D_01134D_09,
  0x011366_01136C_E6, 0x011370_011374_E6, 0x0113CE_0113D0_09, 0x011442_011442_09,
  0x011446_011446_07, 0x01145E_01145E_E6, 0x0114C2_0114C2_09, 0x0114C3_0114C3_07,
  0x0115BF_0115BF_09, 0x0115C0_0115C0_07, 0x01163F_01163F_09, 0x0116B6_0116B6_09,
  0x0116B7_0116B7_07, 0x01172B_01172B_09, 0x011839_011839_09, 0x01183A_01183A_07,
  0x01193D_01193E_09, 0x011943_011943_07, 0x0119E0_0119E0_09, 0x011A34_011A34_09,
  0x011A47_011A47_09, 0x011A99_011A99_09, 0x011C3F_011C3F_09, 0x011D42_011D42_07,
  0x011D44_011D45_09, 0x011D97_011D97_09, 0x011F41_011F42_09, 0x01612F_01612F_09,
  0x016AF0_016AF4_01, 0x016B30_016B36_E6, 0x016FF0_016FF1_06, 0x01BC9E_01BC9E_01,
  0x01D165_01D166_D8, 0x01D167_01D169_01, 0x01D16D_01D16D_E2, 0x01D16E_01D172_D8,
  0x01D17B_01D182_DC, 0x01D185_01D189_E6, 0x01D18A_01D18B_DC, 0x01D1AA_01D1AD_E6,
  0x01D242_01D244_E6, 0x01D250_01D25A_DC, 0x01D25B_01D25B_01, 0x01D280_01D280_DC,
  0x01E000_01E006_E6, 0x01E008_01E018_E6, 0x01E01B_01E021_E6, 0x01E023_01E024_E6,
  0x01E026_01E02A_E6, 0x01E08F_01E08F_E6, 0x01E130_01E136_E6, 0x01E2AE_01E2AE_E6,
  0x01E2EC_01E2EF_E6, 0x01E4EC_01E4ED_E8, 0x01E4EE_01E4EE_DC, 0x01E4EF_01E4EF_E6,
  0x01E5EE_01E5EE_E6, 0x01E5EF_01E5EF_DC, 0x01E6E3_01E6E3_E6, 0x01E6E6_01E6E6_E6,
  0x01E6EE_01E6EF_E6, 0x01E6F5_01E6F5_E6, 0x01E8D0_01E8D6_DC, 0x01E944_01E949_E6,
  0x01E94A_01E94A_07]

/-- The canonical combining class of a character; a starter has class zero. -/
def combiningClass (c : Char) : Nat :=
  if c.toNat < 0x300 then 0 else Table.valueIn combiningRanges c

end ServedMedia.Canonical
