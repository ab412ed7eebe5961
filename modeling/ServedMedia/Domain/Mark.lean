import ServedMedia.Text.Table

/-!
# Marks

Marks join the character before them, so no label of a domain begins with one.
The ranges are right for characters that a domain may hold.
-/

namespace ServedMedia.Domain

/-- Ranges of marks: those that take no space have the value 1, those that do 2. -/
def markRanges : List Nat := [
  0x000300_00036F_01, 0x000483_000489_01, 0x000591_0005BD_01, 0x0005BF_0005BF_01,
  0x0005C1_0005C2_01, 0x0005C4_0005C5_01, 0x0005C7_0005C7_01, 0x000610_00061A_01,
  0x00064B_00065F_01, 0x000670_000670_01, 0x0006D6_0006DC_01, 0x0006DF_0006E4_01,
  0x0006E7_0006E8_01, 0x0006EA_0006ED_01, 0x000711_000711_01, 0x000730_00074A_01,
  0x0007A6_0007B0_01, 0x0007EB_0007F3_01, 0x0007FD_0007FD_01, 0x000816_000819_01,
  0x00081B_000823_01, 0x000825_000827_01, 0x000829_00082D_01, 0x000859_00085B_01,
  0x000897_00089F_01, 0x0008CA_000902_01, 0x000903_000903_02, 0x00093A_00093A_01,
  0x00093B_00093B_02, 0x00093C_00093C_01, 0x00093E_000940_02, 0x000941_000948_01,
  0x000949_00094C_02, 0x00094D_00094D_01, 0x00094E_00094F_02, 0x000951_000957_01,
  0x000962_000963_01, 0x000981_000981_01, 0x000982_000983_02, 0x0009BC_0009BC_01,
  0x0009BE_0009C0_02, 0x0009C1_0009C4_01, 0x0009C7_0009CC_02, 0x0009CD_0009CD_01,
  0x0009D7_0009D7_02, 0x0009E2_0009E3_01, 0x0009FE_000A02_01, 0x000A03_000A03_02,
  0x000A3C_000A3C_01, 0x000A3E_000A40_02, 0x000A41_000A51_01, 0x000A70_000A71_01,
  0x000A75_000A75_01, 0x000A81_000A82_01, 0x000A83_000A83_02, 0x000ABC_000ABC_01,
  0x000ABE_000AC0_02, 0x000AC1_000AC8_01, 0x000AC9_000ACC_02, 0x000ACD_000ACD_01,
  0x000AE2_000AE3_01, 0x000AFA_000B01_01, 0x000B02_000B03_02, 0x000B3C_000B3C_01,
  0x000B3E_000B3E_02, 0x000B3F_000B3F_01, 0x000B40_000B40_02, 0x000B41_000B44_01,
  0x000B47_000B4C_02, 0x000B4D_000B56_01, 0x000B57_000B57_02, 0x000B62_000B63_01,
  0x000B82_000B82_01, 0x000BBE_000BBF_02, 0x000BC0_000BC0_01, 0x000BC1_000BCC_02,
  0x000BCD_000BCD_01, 0x000BD7_000BD7_02, 0x000C00_000C00_01, 0x000C01_000C03_02,
  0x000C04_000C04_01, 0x000C3C_000C3C_01, 0x000C3E_000C40_01, 0x000C41_000C44_02,
  0x000C46_000C56_01, 0x000C62_000C63_01, 0x000C81_000C81_01, 0x000C82_000C83_02,
  0x000CBC_000CBC_01, 0x000CBE_000CBE_02, 0x000CBF_000CBF_01, 0x000CC0_000CC4_02,
  0x000CC6_000CC6_01, 0x000CC7_000CCB_02, 0x000CCC_000CCD_01, 0x000CD5_000CD6_02,
  0x000CE2_000CE3_01, 0x000CF3_000CF3_02, 0x000D00_000D01_01, 0x000D02_000D03_02,
  0x000D3B_000D3C_01, 0x000D3E_000D40_02, 0x000D41_000D44_01, 0x000D46_000D4C_02,
  0x000D4D_000D4D_01, 0x000D57_000D57_02, 0x000D62_000D63_01, 0x000D81_000D81_01,
  0x000D82_000D83_02, 0x000DCA_000DCA_01, 0x000DCF_000DD1_02, 0x000DD2_000DD6_01,
  0x000DD8_000DDF_02, 0x000DF2_000DF3_02, 0x000E31_000E31_01, 0x000E34_000E3A_01,
  0x000E47_000E4E_01, 0x000EB1_000EB1_01, 0x000EB4_000EBC_01, 0x000EC8_000ECE_01,
  0x000F18_000F19_01, 0x000F35_000F35_01, 0x000F37_000F37_01, 0x000F39_000F39_01,
  0x000F3E_000F3F_02, 0x000F71_000F7E_01, 0x000F7F_000F7F_02, 0x000F80_000F84_01,
  0x000F86_000F87_01, 0x000F8D_000FBC_01, 0x000FC6_000FC6_01, 0x00102B_00102C_02,
  0x00102D_001030_01, 0x001031_001031_02, 0x001032_001037_01, 0x001038_001038_02,
  0x001039_00103A_01, 0x00103B_00103C_02, 0x00103D_00103E_01, 0x001056_001057_02,
  0x001058_001059_01, 0x00105E_001060_01, 0x001062_001064_02, 0x001067_00106D_02,
  0x001071_001074_01, 0x001082_001082_01, 0x001083_001084_02, 0x001085_001086_01,
  0x001087_00108C_02, 0x00108D_00108D_01, 0x00108F_00108F_02, 0x00109A_00109C_02,
  0x00109D_00109D_01, 0x00135D_00135F_01, 0x001712_001714_01, 0x001715_001715_02,
  0x001732_001733_01, 0x001734_001734_02, 0x001752_001753_01, 0x001772_001773_01,
  0x0017B6_0017B6_02, 0x0017B7_0017BD_01, 0x0017BE_0017C5_02, 0x0017C6_0017C6_01,
  0x0017C7_0017C8_02, 0x0017C9_0017D3_01, 0x0017DD_0017DD_01, 0x001885_001886_01,
  0x0018A9_0018A9_01, 0x001920_001922_01, 0x001923_001926_02, 0x001927_001928_01,
  0x001929_001931_02, 0x001932_001932_01, 0x001933_001938_02, 0x001939_00193B_01,
  0x001A17_001A18_01, 0x001A19_001A1A_02, 0x001A1B_001A1B_01, 0x001A55_001A55_02,
  0x001A56_001A56_01, 0x001A57_001A57_02, 0x001A58_001A60_01, 0x001A61_001A61_02,
  0x001A62_001A62_01, 0x001A63_001A64_02, 0x001A65_001A6C_01, 0x001A6D_001A72_02,
  0x001A73_001A7F_01, 0x001AB0_001B03_01, 0x001B04_001B04_02, 0x001B34_001B34_01,
  0x001B35_001B35_02, 0x001B36_001B3A_01, 0x001B3B_001B3B_02, 0x001B3C_001B3C_01,
  0x001B3D_001B41_02, 0x001B42_001B42_01, 0x001B43_001B44_02, 0x001B6B_001B73_01,
  0x001B80_001B81_01, 0x001B82_001B82_02, 0x001BA1_001BA1_02, 0x001BA2_001BA5_01,
  0x001BA6_001BA7_02, 0x001BA8_001BA9_01, 0x001BAA_001BAA_02, 0x001BAB_001BAD_01,
  0x001BE6_001BE6_01, 0x001BE7_001BE7_02, 0x001BE8_001BE9_01, 0x001BEA_001BEC_02,
  0x001BED_001BED_01, 0x001BEE_001BEE_02, 0x001BEF_001BF1_01, 0x001BF2_001BF3_02,
  0x001C24_001C2B_02, 0x001C2C_001C33_01, 0x001C34_001C35_02, 0x001C36_001C37_01,
  0x001CD0_001CD2_01, 0x001CD4_001CE0_01, 0x001CE1_001CE1_02, 0x001CE2_001CE8_01,
  0x001CED_001CED_01, 0x001CF4_001CF4_01, 0x001CF7_001CF7_02, 0x001CF8_001CF9_01,
  0x001DC0_001DFF_01, 0x0020D0_0020F0_01, 0x002CEF_002CF1_01, 0x002D7F_002D7F_01,
  0x002DE0_002DFF_01, 0x00302A_00302D_01, 0x00302E_00302F_02, 0x003099_00309A_01,
  0x00A66F_00A672_01, 0x00A674_00A67D_01, 0x00A69E_00A69F_01, 0x00A6F0_00A6F1_01,
  0x00A802_00A802_01, 0x00A806_00A806_01, 0x00A80B_00A80B_01, 0x00A823_00A824_02,
  0x00A825_00A826_01, 0x00A827_00A827_02, 0x00A82C_00A82C_01, 0x00A880_00A881_02,
  0x00A8B4_00A8C3_02, 0x00A8C4_00A8C5_01, 0x00A8E0_00A8F1_01, 0x00A8FF_00A8FF_01,
  0x00A926_00A92D_01, 0x00A947_00A951_01, 0x00A952_00A953_02, 0x00A980_00A982_01,
  0x00A983_00A983_02, 0x00A9B3_00A9B3_01, 0x00A9B4_00A9B5_02, 0x00A9B6_00A9B9_01,
  0x00A9BA_00A9BB_02, 0x00A9BC_00A9BD_01, 0x00A9BE_00A9C0_02, 0x00A9E5_00A9E5_01,
  0x00AA29_00AA2E_01, 0x00AA2F_00AA30_02, 0x00AA31_00AA32_01, 0x00AA33_00AA34_02,
  0x00AA35_00AA36_01, 0x00AA43_00AA43_01, 0x00AA4C_00AA4C_01, 0x00AA4D_00AA4D_02,
  0x00AA7B_00AA7B_02, 0x00AA7C_00AA7C_01, 0x00AA7D_00AA7D_02, 0x00AAB0_00AAB0_01,
  0x00AAB2_00AAB4_01, 0x00AAB7_00AAB8_01, 0x00AABE_00AABF_01, 0x00AAC1_00AAC1_01,
  0x00AAEB_00AAEB_02, 0x00AAEC_00AAED_01, 0x00AAEE_00AAEF_02, 0x00AAF5_00AAF5_02,
  0x00AAF6_00AAF6_01, 0x00ABE3_00ABE4_02, 0x00ABE5_00ABE5_01, 0x00ABE6_00ABE7_02,
  0x00ABE8_00ABE8_01, 0x00ABE9_00ABEA_02, 0x00ABEC_00ABEC_02, 0x00ABED_00ABED_01,
  0x00FB1E_00FB1E_01, 0x00FE20_00FE2F_01, 0x0101FD_0101FD_01, 0x0102E0_0102E0_01,
  0x010376_01037A_01, 0x010A01_010A0F_01, 0x010A38_010A3F_01, 0x010AE5_010AE6_01,
  0x010D24_010D27_01, 0x010D69_010D6D_01, 0x010EAB_010EAC_01, 0x010EFA_010EFF_01,
  0x010F46_010F50_01, 0x010F82_010F85_01, 0x011000_011000_02, 0x011001_011001_01,
  0x011002_011002_02, 0x011038_011046_01, 0x011070_011070_01, 0x011073_011074_01,
  0x01107F_011081_01, 0x011082_011082_02, 0x0110B0_0110B2_02, 0x0110B3_0110B6_01,
  0x0110B7_0110B8_02, 0x0110B9_0110BA_01, 0x0110C2_0110C2_01, 0x011100_011102_01,
  0x011127_01112B_01, 0x01112C_01112C_02, 0x01112D_011134_01, 0x011145_011146_02,
  0x011173_011173_01, 0x011180_011181_01, 0x011182_011182_02, 0x0111B3_0111B5_02,
  0x0111B6_0111BE_01, 0x0111BF_0111C0_02, 0x0111C9_0111CC_01, 0x0111CE_0111CE_02,
  0x0111CF_0111CF_01, 0x01122C_01122E_02, 0x01122F_011231_01, 0x011232_011233_02,
  0x011234_011234_01, 0x011235_011235_02, 0x011236_011237_01, 0x01123E_01123E_01,
  0x011241_011241_01, 0x0112DF_0112DF_01, 0x0112E0_0112E2_02, 0x0112E3_0112EA_01,
  0x011300_011301_01, 0x011302_011303_02, 0x01133B_01133C_01, 0x01133E_01133F_02,
  0x011340_011340_01, 0x011341_01134D_02, 0x011357_011357_02, 0x011362_011363_02,
  0x011366_011374_01, 0x0113B8_0113BA_02, 0x0113BB_0113C0_01, 0x0113C2_0113CD_02,
  0x0113CE_0113CE_01, 0x0113CF_0113CF_02, 0x0113D0_0113D0_01, 0x0113D2_0113D2_01,
  0x0113E1_0113E2_01, 0x011435_011437_02, 0x011438_01143F_01, 0x011440_011441_02,
  0x011442_011444_01, 0x011445_011445_02, 0x011446_011446_01, 0x01145E_01145E_01,
  0x0114B0_0114B2_02, 0x0114B3_0114B8_01, 0x0114B9_0114B9_02, 0x0114BA_0114BA_01,
  0x0114BB_0114BE_02, 0x0114BF_0114C0_01, 0x0114C1_0114C1_02, 0x0114C2_0114C3_01,
  0x0115AF_0115B1_02, 0x0115B2_0115B5_01, 0x0115B8_0115BB_02, 0x0115BC_0115BD_01,
  0x0115BE_0115BE_02, 0x0115BF_0115C0_01, 0x0115DC_0115DD_01, 0x011630_011632_02,
  0x011633_01163A_01, 0x01163B_01163C_02, 0x01163D_01163D_01, 0x01163E_01163E_02,
  0x01163F_011640_01, 0x0116AB_0116AB_01, 0x0116AC_0116AC_02, 0x0116AD_0116AD_01,
  0x0116AE_0116AF_02, 0x0116B0_0116B5_01, 0x0116B6_0116B6_02, 0x0116B7_0116B7_01,
  0x01171D_01171D_01, 0x01171E_01171E_02, 0x01171F_01171F_01, 0x011720_011721_02,
  0x011722_011725_01, 0x011726_011726_02, 0x011727_01172B_01, 0x01182C_01182E_02,
  0x01182F_011837_01, 0x011838_011838_02, 0x011839_01183A_01, 0x011930_011938_02,
  0x01193B_01193C_01, 0x01193D_01193D_02, 0x01193E_01193E_01, 0x011940_011940_02,
  0x011942_011942_02, 0x011943_011943_01, 0x0119D1_0119D3_02, 0x0119D4_0119DB_01,
  0x0119DC_0119DF_02, 0x0119E0_0119E0_01, 0x0119E4_0119E4_02, 0x011A01_011A0A_01,
  0x011A33_011A38_01, 0x011A39_011A39_02, 0x011A3B_011A3E_01, 0x011A47_011A47_01,
  0x011A51_011A56_01, 0x011A57_011A58_02, 0x011A59_011A5B_01, 0x011A8A_011A96_01,
  0x011A97_011A97_02, 0x011A98_011A99_01, 0x011B60_011B60_01, 0x011B61_011B61_02,
  0x011B62_011B64_01, 0x011B65_011B65_02, 0x011B66_011B66_01, 0x011B67_011B67_02,
  0x011C2F_011C2F_02, 0x011C30_011C3D_01, 0x011C3E_011C3E_02, 0x011C3F_011C3F_01,
  0x011C92_011CA7_01, 0x011CA9_011CA9_02, 0x011CAA_011CB0_01, 0x011CB1_011CB1_02,
  0x011CB2_011CB3_01, 0x011CB4_011CB4_02, 0x011CB5_011CB6_01, 0x011D31_011D45_01,
  0x011D47_011D47_01, 0x011D8A_011D8E_02, 0x011D90_011D91_01, 0x011D93_011D94_02,
  0x011D95_011D95_01, 0x011D96_011D96_02, 0x011D97_011D97_01, 0x011EF3_011EF4_01,
  0x011EF5_011EF6_02, 0x011F00_011F01_01, 0x011F03_011F03_02, 0x011F34_011F35_02,
  0x011F36_011F3A_01, 0x011F3E_011F3F_02, 0x011F40_011F40_01, 0x011F41_011F41_02,
  0x011F42_011F42_01, 0x011F5A_011F5A_01, 0x013440_013440_01, 0x013447_013455_01,
  0x01611E_016129_01, 0x01612A_01612C_02, 0x01612D_01612F_01, 0x016AF0_016AF4_01,
  0x016B30_016B36_01, 0x016F4F_016F4F_01, 0x016F51_016F87_02, 0x016F8F_016F92_01,
  0x016FE4_016FE4_01, 0x016FF0_016FF1_02, 0x01BC9D_01BC9E_01, 0x01CF00_01CF46_01,
  0x01D165_01D166_02, 0x01D167_01D169_01, 0x01D16D_01D172_02, 0x01D17B_01D182_01,
  0x01D185_01D18B_01, 0x01D1AA_01D1AD_01, 0x01D242_01D244_01, 0x01DA00_01DA36_01,
  0x01DA3B_01DA6C_01, 0x01DA75_01DA75_01, 0x01DA84_01DA84_01, 0x01DA9B_01DAAF_01,
  0x01E000_01E08F_01, 0x01E130_01E136_01, 0x01E2AE_01E2AE_01, 0x01E2EC_01E2EF_01,
  0x01E4EC_01E4EF_01, 0x01E5EE_01E5EF_01, 0x01E6E3_01E6E3_01, 0x01E6E6_01E6E6_01,
  0x01E6EE_01E6EF_01, 0x01E6F5_01E6F5_01, 0x01E8D0_01E8D6_01, 0x01E944_01E94A_01]

/-- Whether a character is a mark. -/
def isMark (c : Char) : Bool := Table.valueIn markRanges c != 0

/-- Whether a character is a mark that takes no space of its own. -/
def isNonspacing (c : Char) : Bool := Table.valueIn markRanges c == 1

end ServedMedia.Domain
