import ServedMedia.Text.Table

/-!
# Characters that stand for others

In a domain many characters stand for others: a capital for its small letter, a
wide or styled letter for the plain one, a ligature for its letters.  Runs of
characters that stand for runs of others are listed as such, the rest one by
one.  Characters that merely decompose canonically are left out, and so are
those that stand for a text no domain may hold.
-/

namespace ServedMedia.Domain

/-- Runs of characters: from the lowest bits up, 24 bits hold what the first character stands
for, four the step from one to the next, eight the number of steps and 24 the first. -/
def foldingRuns : List Nat := [
  0x0000B2_01_1_000032, 0x0000C0_16_1_0000E0, 0x0000D8_06_1_0000F8, 0x000100_17_2_000101,
  0x000134_01_2_000135, 0x000139_02_2_00013A, 0x000141_03_2_000142, 0x00014A_16_2_00014B,
  0x000179_02_2_00017A, 0x000182_01_2_000183, 0x000189_01_1_000256, 0x0001A0_02_2_0001A1,
  0x0001B1_01_1_00028A, 0x0001B3_01_2_0001B4, 0x0001CD_07_2_0001CE, 0x0001DE_08_2_0001DF,
  0x0001F8_13_2_0001F9, 0x000222_08_2_000223, 0x000246_04_2_000247, 0x0002B0_01_2_000068,
  0x000370_01_2_000371, 0x000388_02_1_0003AD, 0x00038E_01_1_0003CD, 0x000391_10_1_0003B1,
  0x0003A3_08_1_0003C3, 0x0003D8_0B_2_0003D9, 0x0003FD_02_1_00037B, 0x000400_0F_1_000450,
  0x000410_1F_1_000430, 0x000460_10_2_000461, 0x00048A_1A_2_00048B, 0x0004C1_06_2_0004C2,
  0x0004D0_2F_2_0004D1, 0x000531_25_1_000561, 0x0010A0_25_1_002D00, 0x0013F8_05_1_0013F0,
  0x001C83_01_1_000441, 0x001C90_2A_1_0010D0, 0x001CBD_02_1_0010FD, 0x001D2E_01_2_000062,
  0x001D31_04_2_000065, 0x001D34_03_2_000068, 0x001D40_01_1_000074, 0x001D44_01_1_000250,
  0x001D48_01_1_000064, 0x001D4B_01_1_00025B, 0x001D50_01_2_00006D, 0x001D54_01_1_001D16,
  0x001D57_01_1_000074, 0x001D5D_02_1_0003B2, 0x001D60_01_1_0003C6, 0x001D64_01_1_000075,
  0x001D66_01_1_0003B2, 0x001D69_01_1_0003C6, 0x001DA4_02_1_000268, 0x001DAE_03_1_000272,
  0x001DB3_01_1_000282, 0x001DB6_01_1_000289, 0x001DB9_01_1_00028B, 0x001DBC_02_1_000290,
  0x001E00_4A_2_001E01, 0x001EA0_2F_2_001EA1, 0x001F08_07_1_001F00, 0x001F18_05_1_001F10,
  0x001F28_07_1_001F20, 0x001F38_07_1_001F30, 0x001F48_05_1_001F40, 0x001F59_03_2_001F51,
  0x001F68_07_1_001F60, 0x001FB8_01_1_001FB0, 0x001FC8_01_2_001F72, 0x001FD8_01_1_001FD0,
  0x001FE8_01_1_001FE0, 0x001FF9_01_2_0003CC, 0x002074_05_1_000034, 0x00207D_01_1_000028,
  0x002080_09_1_000030, 0x00208D_01_1_000028, 0x002096_03_1_00006B, 0x00209B_01_1_000073,
  0x00210A_01_1_000067, 0x002113_01_2_00006C, 0x002119_02_1_000070, 0x00212C_01_1_000062,
  0x002130_01_1_000065, 0x002135_03_1_0005D0, 0x002146_01_1_000064, 0x002148_01_1_000069,
  0x00216D_01_1_000063, 0x00217D_01_1_000063, 0x002460_08_1_000031, 0x0024B6_19_1_000061,
  0x0024D0_19_1_000061, 0x002C00_2F_1_002C30, 0x002C67_02_2_002C68, 0x002C7E_01_1_00023F,
  0x002C80_31_2_002C81, 0x002CEB_01_2_002CEC, 0x003039_01_1_005344, 0x003131_01_1_001100,
  0x003133_01_2_0011AA, 0x003137_02_1_001103, 0x00313A_05_1_0011B0, 0x003141_02_1_001106,
  0x003145_09_1_001109, 0x00314F_14_1_001161, 0x003165_01_1_001114, 0x003167_01_1_0011C7,
  0x003171_01_1_00111D, 0x003174_01_1_001122, 0x003178_04_1_00112B, 0x003182_01_1_0011F1,
  0x003184_02_1_001157, 0x003187_01_1_001184, 0x00318A_01_1_001191, 0x003261_01_1_001102,
  0x003263_02_1_001105, 0x003267_01_1_00110B, 0x003269_04_1_00110E, 0x0032D4_01_1_0030AA,
  0x0032E4_05_1_0030CA, 0x0032EE_04_1_0030DE, 0x0032F5_05_1_0030E8, 0x0032FB_03_1_0030EF,
  0x00A640_16_2_00A641, 0x00A680_0D_2_00A681, 0x00A722_06_2_00A723, 0x00A732_1E_2_00A733,
  0x00A779_01_2_00A77A, 0x00A77E_04_2_00A77F, 0x00A790_01_2_00A791, 0x00A796_09_2_00A797,
  0x00A7B4_07_2_00A7B5, 0x00A7C7_01_2_00A7C8, 0x00A7CC_07_2_00A7CD, 0x00AB70_4F_1_0013A0,
  0x00FB22_01_1_0005D3, 0x00FB24_02_1_0005DB, 0x00FB58_01_2_00067E, 0x00FB59_01_2_00067E,
  0x00FB6C_01_2_0006A4, 0x00FB6D_01_2_0006A4, 0x00FB7D_01_1_000686, 0x00FB84_01_2_00068C,
  0x00FB85_01_2_00068C, 0x00FB9F_01_1_0006BA, 0x00FBA5_01_1_0006C0, 0x00FBAF_01_1_0006D2,
  0x00FBD9_01_2_0006C6, 0x00FBDA_01_2_0006C6, 0x00FE17_01_1_003016, 0x00FE35_01_1_000028,
  0x00FE39_01_1_003014, 0x00FE3B_01_1_003010, 0x00FE3D_01_1_00300A, 0x00FE3F_01_1_003008,
  0x00FE41_03_1_00300C, 0x00FE59_01_1_000028, 0x00FE5D_01_1_003014, 0x00FE61_01_1_00002A,
  0x00FE80_01_1_000621, 0x00FE82_01_1_000622, 0x00FE84_01_1_000623, 0x00FE86_01_1_000624,
  0x00FE88_01_1_000625, 0x00FE8C_01_1_000626, 0x00FE8E_01_1_000627, 0x00FE92_01_1_000628,
  0x00FE94_01_1_000629, 0x00FE98_01_1_00062A, 0x00FE9C_01_1_00062B, 0x00FEA0_01_1_00062C,
  0x00FEA4_01_1_00062D, 0x00FEA8_01_1_00062E, 0x00FEAA_01_1_00062F, 0x00FEAC_01_1_000630,
  0x00FEAE_01_1_000631, 0x00FEB0_01_1_000632, 0x00FEB4_01_1_000633, 0x00FEB8_01_1_000634,
  0x00FEBC_01_1_000635, 0x00FEC0_01_1_000636, 0x00FEC4_01_1_000637, 0x00FEC8_01_1_000638,
  0x00FECC_01_1_000639, 0x00FED4_01_1_000641, 0x00FED8_01_1_000642, 0x00FEDC_01_1_000643,
  0x00FEE0_01_1_000644, 0x00FEE4_01_1_000645, 0x00FEE8_01_1_000646, 0x00FEEC_01_1_000647,
  0x00FEEE_01_1_000648, 0x00FEF0_01_1_000649, 0x00FF01_01_1_000021, 0x00FF04_0A_2_000024,
  0x00FF07_03_2_000027, 0x00FF11_06_2_000031, 0x00FF1C_01_2_00003C, 0x00FF21_19_1_000061,
  0x00FF3F_1C_1_00005F, 0x00FF5D_01_1_00007D, 0x00FF5F_01_1_002985, 0x00FF62_01_1_00300C,
  0x00FF75_01_1_0030AA, 0x00FF85_05_1_0030CA, 0x00FF8F_04_1_0030DE, 0x00FF96_05_1_0030E8,
  0x00FF9E_01_1_003099, 0x00FFA1_01_1_001100, 0x00FFA3_01_2_0011AA, 0x00FFA7_02_1_001103,
  0x00FFAA_05_1_0011B0, 0x00FFB1_02_1_001106, 0x00FFB5_09_1_001109, 0x00FFC2_05_1_001161,
  0x00FFCA_05_1_001167, 0x00FFD2_05_1_00116D, 0x00FFDA_02_1_001173, 0x00FFE0_01_1_0000A2,
  0x00FFE9_03_1_002190, 0x010400_27_1_010428, 0x0104B0_23_1_0104D8, 0x010570_12_2_010597,
  0x010571_04_2_010598, 0x01057D_06_2_0105A4, 0x01058D_02_2_0105B4, 0x010781_01_1_0002D0,
  0x010787_01_2_0002A3, 0x01078B_01_1_000256, 0x010799_01_1_0002AA, 0x0107A3_01_1_000276,
  0x0107A8_01_1_00027D, 0x0107B3_01_1_0002A1, 0x0107B6_02_1_0001C0, 0x010C80_32_1_010CC0,
  0x010D50_15_1_010D70, 0x0118A0_1F_1_0118C0, 0x016E40_1F_1_016E60, 0x016EA0_18_1_016EBB,
  0x01CCD6_19_1_000061, 0x01CCF0_09_1_000030, 0x01D400_19_1_000061, 0x01D41A_19_1_000061,
  0x01D434_19_1_000061, 0x01D44E_0C_2_000061, 0x01D44F_02_2_000062, 0x01D457_08_2_00006A,
  0x01D468_19_1_000061, 0x01D482_19_1_000061, 0x01D49C_01_2_000061, 0x01D4A5_01_1_00006A,
  0x01D4A9_03_1_00006E, 0x01D4AE_07_1_000073, 0x01D4B6_03_1_000061, 0x01D4BB_0A_2_000066,
  0x01D4BE_02_2_000069, 0x01D4C6_04_2_000071, 0x01D4D0_19_1_000061, 0x01D4EA_19_1_000061,
  0x01D504_01_1_000061, 0x01D507_03_1_000064, 0x01D50D_07_1_00006A, 0x01D516_06_1_000073,
  0x01D51E_19_1_000061, 0x01D538_01_1_000061, 0x01D53B_03_1_000064, 0x01D540_04_1_000069,
  0x01D54A_06_1_000073, 0x01D552_19_1_000061, 0x01D56C_19_1_000061, 0x01D586_19_1_000061,
  0x01D5A0_19_1_000061, 0x01D5BA_19_1_000061, 0x01D5D4_19_1_000061, 0x01D5EE_19_1_000061,
  0x01D608_19_1_000061, 0x01D622_19_1_000061, 0x01D63C_19_1_000061, 0x01D656_19_1_000061,
  0x01D670_19_1_000061, 0x01D68A_19_1_000061, 0x01D6A8_10_1_0003B1, 0x01D6BA_06_1_0003C3,
  0x01D6C2_10_1_0003B1, 0x01D6D4_06_1_0003C3, 0x01D6E2_10_1_0003B1, 0x01D6F4_06_1_0003C3,
  0x01D6FC_10_1_0003B1, 0x01D70E_06_1_0003C3, 0x01D71C_10_1_0003B1, 0x01D72E_06_1_0003C3,
  0x01D736_10_1_0003B1, 0x01D748_06_1_0003C3, 0x01D756_10_1_0003B1, 0x01D768_06_1_0003C3,
  0x01D770_10_1_0003B1, 0x01D782_06_1_0003C3, 0x01D790_10_1_0003B1, 0x01D7A2_06_1_0003C3,
  0x01D7AA_10_1_0003B1, 0x01D7BC_06_1_0003C3, 0x01D7CE_09_1_000030, 0x01D7D8_09_1_000030,
  0x01D7E2_09_1_000030, 0x01D7EC_09_1_000030, 0x01D7F6_09_1_000030, 0x01E030_08_1_000430,
  0x01E039_02_1_00043A, 0x01E03C_0A_1_00043E, 0x01E048_01_1_00044D, 0x01E051_08_1_000430,
  0x01E05A_01_1_00043A, 0x01E05C_01_1_00043E, 0x01E05F_05_1_000443, 0x01E065_01_1_00044A,
  0x01E900_21_1_01E922, 0x01EE00_01_1_000627, 0x01EE0A_03_1_000643, 0x01EE15_01_1_00062A,
  0x01EE2A_03_1_000643, 0x01EE35_01_1_00062A, 0x01EE4B_01_2_000644, 0x01EE6A_01_2_000643,
  0x01EE75_01_1_00062A, 0x01EE80_01_1_000627, 0x01EE84_01_1_000647, 0x01EE8B_02_1_000644,
  0x01EE95_01_1_00062A, 0x01EEAB_02_1_000644, 0x01EEB5_01_1_00062A, 0x01F130_19_1_000061,
  0x01FBF0_09_1_000030]

/-- Single characters, each with the one it stands for. -/
def letterFoldings : List Nat := [
  0x000061_0000AA, 0x0003BC_0000B5, 0x000031_0000B9, 0x00006F_0000BA, 0x0000FF_000178,
  0x000073_00017F, 0x000253_000181, 0x000254_000186, 0x000188_000187, 0x00018C_00018B,
  0x0001DD_00018E, 0x000259_00018F, 0x00025B_000190, 0x000192_000191, 0x000260_000193,
  0x000263_000194, 0x000269_000196, 0x000268_000197, 0x000199_000198, 0x00026F_00019C,
  0x000272_00019D, 0x000275_00019F, 0x000280_0001A6, 0x0001A8_0001A7, 0x000283_0001A9,
  0x0001AD_0001AC, 0x000288_0001AE, 0x0001B0_0001AF, 0x000292_0001B7, 0x0001B9_0001B8,
  0x0001BD_0001BC, 0x0001F5_0001F4, 0x000195_0001F6, 0x0001BF_0001F7, 0x00019E_000220,
  0x002C65_00023A, 0x00023C_00023B, 0x00019A_00023D, 0x002C66_00023E, 0x000242_000241,
  0x000180_000243, 0x000289_000244, 0x00028C_000245, 0x000266_0002B1, 0x000072_0002B3,
  0x000279_0002B4, 0x00027B_0002B5, 0x000281_0002B6, 0x000077_0002B7, 0x000079_0002B8,
  0x000263_0002E0, 0x00006C_0002E1, 0x000073_0002E2, 0x000078_0002E3, 0x000295_0002E4,
  0x0003B9_000345, 0x000377_000376, 0x0003F3_00037F, 0x0003AC_000386, 0x0003CC_00038C,
  0x0003D7_0003CF, 0x0003B2_0003D0, 0x0003B8_0003D1, 0x0003C5_0003D2, 0x0003CD_0003D3,
  0x0003CB_0003D4, 0x0003C6_0003D5, 0x0003C0_0003D6, 0x0003BA_0003F0, 0x0003C1_0003F1,
  0x0003C3_0003F2, 0x0003B8_0003F4, 0x0003B5_0003F5, 0x0003F8_0003F7, 0x0003C3_0003F9,
  0x0003FB_0003FA, 0x0004CF_0004C0, 0x000F0B_000F0C, 0x002D27_0010C7, 0x002D2D_0010CD,
  0x0010DC_0010FC, 0x000432_001C80, 0x000434_001C81, 0x00043E_001C82, 0x000442_001C85,
  0x00044A_001C86, 0x000463_001C87, 0x00A64B_001C88, 0x001C8A_001C89, 0x000061_001D2C,
  0x0000E6_001D2D, 0x0001DD_001D32, 0x00006F_001D3C, 0x000223_001D3D, 0x000070_001D3E,
  0x000072_001D3F, 0x000077_001D42, 0x000061_001D43, 0x001D02_001D46, 0x000062_001D47,
  0x000259_001D4A, 0x000067_001D4D, 0x00006B_001D4F, 0x00014B_001D51, 0x000254_001D53,
  0x000070_001D56, 0x001D1D_001D59, 0x00026F_001D5A, 0x000076_001D5B, 0x001D25_001D5C,
  0x000069_001D62, 0x000072_001D63, 0x0003C1_001D68, 0x00043D_001D78, 0x000252_001D9B,
  0x000063_001D9C, 0x000255_001D9D, 0x0000F0_001D9E, 0x00025C_001D9F, 0x000066_001DA0,
  0x00025F_001DA1, 0x000261_001DA2, 0x000265_001DA3, 0x001D7B_001DA7, 0x00029D_001DA8,
  0x00026D_001DA9, 0x001D85_001DAA, 0x00029F_001DAB, 0x000271_001DAC, 0x000270_001DAD,
  0x000278_001DB2, 0x0001AB_001DB5, 0x001D1C_001DB8, 0x00007A_001DBB, 0x0003B8_001DBF,
  0x001E61_001E9B, 0x0000DF_001E9E, 0x001F70_001FBA, 0x0003AC_001FBB, 0x0003AD_001FC9,
  0x0003AE_001FCB, 0x001F76_001FDA, 0x0003AF_001FDB, 0x001F7A_001FEA, 0x0003CD_001FEB,
  0x001FE5_001FEC, 0x001F78_001FF8, 0x001F7C_001FFA, 0x002010_002011, 0x000030_002070,
  0x000069_002071, 0x00002B_00207A, 0x002212_00207B, 0x00003D_00207C, 0x00006E_00207F,
  0x00002B_00208A, 0x002212_00208B, 0x00003D_00208C, 0x000061_002090, 0x000065_002091,
  0x00006F_002092, 0x000078_002093, 0x000259_002094, 0x000068_002095, 0x000070_00209A,
  0x000063_002102, 0x00025B_002107, 0x000068_00210C, 0x000068_00210D, 0x000068_00210E,
  0x000127_00210F, 0x000069_002110, 0x000069_002111, 0x00006C_002112, 0x000072_00211C,
  0x000072_00211D, 0x00007A_002124, 0x0003C9_002126, 0x00007A_002128, 0x00006B_00212A,
  0x0000E5_00212B, 0x000065_00212F, 0x00214E_002132, 0x00006D_002133, 0x00006F_002134,
  0x000069_002139, 0x0003C0_00213C, 0x0003B3_00213D, 0x0003B3_00213E, 0x0003C0_00213F,
  0x002211_002140, 0x000064_002145, 0x000069_002160, 0x000076_002164, 0x000078_002169,
  0x00006C_00216C, 0x00006D_00216F, 0x000069_002170, 0x000076_002174, 0x000078_002179,
  0x00006C_00217C, 0x00006D_00217F, 0x002184_002183, 0x000030_0024EA, 0x002C61_002C60,
  0x00026B_002C62, 0x001D7D_002C63, 0x00027D_002C64, 0x000251_002C6D, 0x000271_002C6E,
  0x000250_002C6F, 0x000252_002C70, 0x002C73_002C72, 0x002C76_002C75, 0x00006A_002C7C,
  0x000076_002C7D, 0x002CF3_002CF2, 0x002D61_002D6F, 0x006BCD_002E9F, 0x009F9F_002EF3,
  0x004E00_002F00, 0x004E28_002F01, 0x004E36_002F02, 0x004E3F_002F03, 0x004E59_002F04,
  0x004E85_002F05, 0x004E8C_002F06, 0x004EA0_002F07, 0x004EBA_002F08, 0x00513F_002F09,
  0x005165_002F0A, 0x00516B_002F0B, 0x005182_002F0C, 0x005196_002F0D, 0x0051AB_002F0E,
  0x0051E0_002F0F, 0x0051F5_002F10, 0x005200_002F11, 0x00529B_002F12, 0x0052F9_002F13,
  0x005315_002F14, 0x00531A_002F15, 0x005338_002F16, 0x005341_002F17, 0x00535C_002F18,
  0x005369_002F19, 0x005382_002F1A, 0x0053B6_002F1B, 0x0053C8_002F1C, 0x0053E3_002F1D,
  0x0056D7_002F1E, 0x00571F_002F1F, 0x0058EB_002F20, 0x005902_002F21, 0x00590A_002F22,
  0x005915_002F23, 0x005927_002F24, 0x005973_002F25, 0x005B50_002F26, 0x005B80_002F27,
  0x005BF8_002F28, 0x005C0F_002F29, 0x005C22_002F2A, 0x005C38_002F2B, 0x005C6E_002F2C,
  0x005C71_002F2D, 0x005DDB_002F2E, 0x005DE5_002F2F, 0x005DF1_002F30, 0x005DFE_002F31,
  0x005E72_002F32, 0x005E7A_002F33, 0x005E7F_002F34, 0x005EF4_002F35, 0x005EFE_002F36,
  0x005F0B_002F37, 0x005F13_002F38, 0x005F50_002F39, 0x005F61_002F3A, 0x005F73_002F3B,
  0x005FC3_002F3C, 0x006208_002F3D, 0x006236_002F3E, 0x00624B_002F3F, 0x00652F_002F40,
  0x006534_002F41, 0x006587_002F42, 0x006597_002F43, 0x0065A4_002F44, 0x0065B9_002F45,
  0x0065E0_002F46, 0x0065E5_002F47, 0x0066F0_002F48, 0x006708_002F49, 0x006728_002F4A,
  0x006B20_002F4B, 0x006B62_002F4C, 0x006B79_002F4D, 0x006BB3_002F4E, 0x006BCB_002F4F,
  0x006BD4_002F50, 0x006BDB_002F51, 0x006C0F_002F52, 0x006C14_002F53, 0x006C34_002F54,
  0x00706B_002F55, 0x00722A_002F56, 0x007236_002F57, 0x00723B_002F58, 0x00723F_002F59,
  0x007247_002F5A, 0x007259_002F5B, 0x00725B_002F5C, 0x0072AC_002F5D, 0x007384_002F5E,
  0x007389_002F5F, 0x0074DC_002F60, 0x0074E6_002F61, 0x007518_002F62, 0x00751F_002F63,
  0x007528_002F64, 0x007530_002F65, 0x00758B_002F66, 0x007592_002F67, 0x007676_002F68,
  0x00767D_002F69, 0x0076AE_002F6A, 0x0076BF_002F6B, 0x0076EE_002F6C, 0x0077DB_002F6D,
  0x0077E2_002F6E, 0x0077F3_002F6F, 0x00793A_002F70, 0x0079B8_002F71, 0x0079BE_002F72,
  0x007A74_002F73, 0x007ACB_002F74, 0x007AF9_002F75, 0x007C73_002F76, 0x007CF8_002F77,
  0x007F36_002F78, 0x007F51_002F79, 0x007F8A_002F7A, 0x007FBD_002F7B, 0x008001_002F7C,
  0x00800C_002F7D, 0x008012_002F7E, 0x008033_002F7F, 0x00807F_002F80, 0x008089_002F81,
  0x0081E3_002F82, 0x0081EA_002F83, 0x0081F3_002F84, 0x0081FC_002F85, 0x00820C_002F86,
  0x00821B_002F87, 0x00821F_002F88, 0x00826E_002F89, 0x008272_002F8A, 0x008278_002F8B,
  0x00864D_002F8C, 0x00866B_002F8D, 0x008840_002F8E, 0x00884C_002F8F, 0x008863_002F90,
  0x00897E_002F91, 0x00898B_002F92, 0x0089D2_002F93, 0x008A00_002F94, 0x008C37_002F95,
  0x008C46_002F96, 0x008C55_002F97, 0x008C78_002F98, 0x008C9D_002F99, 0x008D64_002F9A,
  0x008D70_002F9B, 0x008DB3_002F9C, 0x008EAB_002F9D, 0x008ECA_002F9E, 0x008F9B_002F9F,
  0x008FB0_002FA0, 0x008FB5_002FA1, 0x009091_002FA2, 0x009149_002FA3, 0x0091C6_002FA4,
  0x0091CC_002FA5, 0x0091D1_002FA6, 0x009577_002FA7, 0x009580_002FA8, 0x00961C_002FA9,
  0x0096B6_002FAA, 0x0096B9_002FAB, 0x0096E8_002FAC, 0x009751_002FAD, 0x00975E_002FAE,
  0x009762_002FAF, 0x009769_002FB0, 0x0097CB_002FB1, 0x0097ED_002FB2, 0x0097F3_002FB3,
  0x009801_002FB4, 0x0098A8_002FB5, 0x0098DB_002FB6, 0x0098DF_002FB7, 0x009996_002FB8,
  0x009999_002FB9, 0x0099AC_002FBA, 0x009AA8_002FBB, 0x009AD8_002FBC, 0x009ADF_002FBD,
  0x009B25_002FBE, 0x009B2F_002FBF, 0x009B32_002FC0, 0x009B3C_002FC1, 0x009B5A_002FC2,
  0x009CE5_002FC3, 0x009E75_002FC4, 0x009E7F_002FC5, 0x009EA5_002FC6, 0x009EBB_002FC7,
  0x009EC3_002FC8, 0x009ECD_002FC9, 0x009ED1_002FCA, 0x009EF9_002FCB, 0x009EFD_002FCC,
  0x009F0E_002FCD, 0x009F13_002FCE, 0x009F20_002FCF, 0x009F3B_002FD0, 0x009F4A_002FD1,
  0x009F52_002FD2, 0x009F8D_002FD3, 0x009F9C_002FD4, 0x009FA0_002FD5, 0x00002E_003002,
  0x003012_003036, 0x005341_003038, 0x001102_003134, 0x0011AD_003136, 0x00111A_003140,
  0x001121_003144, 0x0011CC_003169, 0x0011CE_00316A, 0x0011D3_00316B, 0x0011D7_00316C,
  0x0011D9_00316D, 0x00111C_00316E, 0x0011DD_00316F, 0x0011DF_003170, 0x001120_003173,
  0x001127_003176, 0x001129_003177, 0x001132_00317D, 0x001136_00317E, 0x001140_00317F,
  0x001147_003180, 0x00114C_003181, 0x001188_003189, 0x001194_00318C, 0x00119E_00318D,
  0x0011A1_00318E, 0x004E00_003192, 0x004E8C_003193, 0x004E09_003194, 0x0056DB_003195,
  0x004E0A_003196, 0x004E2D_003197, 0x004E0B_003198, 0x007532_003199, 0x004E59_00319A,
  0x004E19_00319B, 0x004E01_00319C, 0x005929_00319D, 0x005730_00319E, 0x004EBA_00319F,
  0x00554F_003244, 0x005E7C_003245, 0x006587_003246, 0x007B8F_003247, 0x001100_003260,
  0x001109_003266, 0x00AC00_00326E, 0x00B098_00326F, 0x00B2E4_003270, 0x00B77C_003271,
  0x00B9C8_003272, 0x00BC14_003273, 0x00C0AC_003274, 0x00C544_003275, 0x00C790_003276,
  0x00CC28_003277, 0x00CE74_003278, 0x00D0C0_003279, 0x00D30C_00327A, 0x00D558_00327B,
  0x00C6B0_00327E, 0x004E00_003280, 0x004E8C_003281, 0x004E09_003282, 0x0056DB_003283,
  0x004E94_003284, 0x00516D_003285, 0x004E03_003286, 0x00516B_003287, 0x004E5D_003288,
  0x005341_003289, 0x006708_00328A, 0x00706B_00328B, 0x006C34_00328C, 0x006728_00328D,
  0x0091D1_00328E, 0x00571F_00328F, 0x0065E5_003290, 0x00682A_003291, 0x006709_003292,
  0x00793E_003293, 0x00540D_003294, 0x007279_003295, 0x008CA1_003296, 0x00795D_003297,
  0x0052B4_003298, 0x0079D8_003299, 0x007537_00329A, 0x005973_00329B, 0x009069_00329C,
  0x00512A_00329D, 0x005370_00329E, 0x006CE8_00329F, 0x009805_0032A0, 0x004F11_0032A1,
  0x005199_0032A2, 0x006B63_0032A3, 0x004E0A_0032A4, 0x004E2D_0032A5, 0x004E0B_0032A6,
  0x005DE6_0032A7, 0x0053F3_0032A8, 0x00533B_0032A9, 0x005B97_0032AA, 0x005B66_0032AB,
  0x0076E3_0032AC, 0x004F01_0032AD, 0x008CC7_0032AE, 0x005354_0032AF, 0x00591C_0032B0,
  0x0030A2_0032D0, 0x0030A4_0032D1, 0x0030A6_0032D2, 0x0030A8_0032D3, 0x0030AD_0032D6,
  0x0030AF_0032D7, 0x0030B1_0032D8, 0x0030B3_0032D9, 0x0030B5_0032DA, 0x0030B7_0032DB,
  0x0030B9_0032DC, 0x0030BB_0032DD, 0x0030BD_0032DE, 0x0030BF_0032DF, 0x0030C1_0032E0,
  0x0030C4_0032E1, 0x0030C6_0032E2, 0x0030C8_0032E3, 0x0030D2_0032EA, 0x0030D5_0032EB,
  0x0030D8_0032EC, 0x0030DB_0032ED, 0x0030E4_0032F3, 0x0030E6_0032F4, 0x00044A_00A69C,
  0x00044C_00A69D, 0x00A76F_00A770, 0x001D79_00A77D, 0x00A78C_00A78B, 0x000265_00A78D,
  0x000266_00A7AA, 0x00025C_00A7AB, 0x000261_00A7AC, 0x00026C_00A7AD, 0x00026A_00A7AE,
  0x00029E_00A7B0, 0x000287_00A7B1, 0x00029D_00A7B2, 0x00AB53_00A7B3, 0x00A794_00A7C4,
  0x000282_00A7C5, 0x001D8E_00A7C6, 0x000264_00A7CB, 0x00019B_00A7DC, 0x000073_00A7F1,
  0x000063_00A7F2, 0x000066_00A7F3, 0x000071_00A7F4, 0x00A7F6_00A7F5, 0x000127_00A7F8,
  0x000153_00A7F9, 0x00A727_00AB5C, 0x00AB37_00AB5D, 0x00026B_00AB5E, 0x00AB52_00AB5F,
  0x00028D_00AB69, 0x0005E2_00FB20, 0x0005D0_00FB21, 0x0005E8_00FB27, 0x0005EA_00FB28,
  0x00002B_00FB29, 0x000671_00FB50, 0x000671_00FB51, 0x00067B_00FB52, 0x00067B_00FB53,
  0x00067B_00FB54, 0x00067B_00FB55, 0x00067E_00FB56, 0x00067E_00FB57, 0x000680_00FB5C,
  0x000680_00FB5D, 0x00067A_00FB5E, 0x00067A_00FB5F, 0x00067A_00FB60, 0x00067A_00FB61,
  0x00067F_00FB62, 0x00067F_00FB63, 0x00067F_00FB64, 0x00067F_00FB65, 0x000679_00FB66,
  0x000679_00FB67, 0x000679_00FB68, 0x000679_00FB69, 0x0006A4_00FB6A, 0x0006A4_00FB6B,
  0x0006A6_00FB70, 0x0006A6_00FB71, 0x000684_00FB72, 0x000684_00FB73, 0x000684_00FB74,
  0x000684_00FB75, 0x000683_00FB76, 0x000683_00FB77, 0x000683_00FB78, 0x000683_00FB79,
  0x000686_00FB7A, 0x000686_00FB7B, 0x000686_00FB7C, 0x000687_00FB7F, 0x000687_00FB80,
  0x000687_00FB81, 0x00068D_00FB82, 0x00068D_00FB83, 0x000688_00FB88, 0x000688_00FB89,
  0x000698_00FB8A, 0x000698_00FB8B, 0x000691_00FB8C, 0x000691_00FB8D, 0x0006A9_00FB8E,
  0x0006A9_00FB8F, 0x0006A9_00FB90, 0x0006A9_00FB91, 0x0006AF_00FB92, 0x0006AF_00FB93,
  0x0006AF_00FB94, 0x0006AF_00FB95, 0x0006B3_00FB96, 0x0006B3_00FB97, 0x0006B3_00FB98,
  0x0006B3_00FB99, 0x0006B1_00FB9A, 0x0006B1_00FB9B, 0x0006B1_00FB9C, 0x0006B1_00FB9D,
  0x0006BA_00FB9E, 0x0006BB_00FBA1, 0x0006BB_00FBA2, 0x0006BB_00FBA3, 0x0006C0_00FBA4,
  0x0006C1_00FBA7, 0x0006C1_00FBA8, 0x0006C1_00FBA9, 0x0006BE_00FBAA, 0x0006BE_00FBAB,
  0x0006BE_00FBAC, 0x0006BE_00FBAD, 0x0006D2_00FBAE, 0x0006D3_00FBB1, 0x0006AD_00FBD3,
  0x0006AD_00FBD4, 0x0006AD_00FBD5, 0x0006AD_00FBD6, 0x0006C7_00FBD7, 0x0006C7_00FBD8,
  0x0006CB_00FBDE, 0x0006CB_00FBDF, 0x0006C5_00FBE0, 0x0006C5_00FBE1, 0x0006C9_00FBE2,
  0x0006C9_00FBE3, 0x0006D0_00FBE4, 0x0006D0_00FBE5, 0x0006D0_00FBE6, 0x0006D0_00FBE7,
  0x000649_00FBE8, 0x000649_00FBE9, 0x0006CC_00FBFC, 0x0006CC_00FBFD, 0x0006CC_00FBFE,
  0x0006CC_00FBFF, 0x00002C_00FE10, 0x003001_00FE11, 0x00003B_00FE14, 0x000021_00FE15,
  0x002014_00FE31, 0x002013_00FE32, 0x00005F_00FE33, 0x00005F_00FE34, 0x00007B_00FE37,
  0x00007D_00FE38, 0x00005F_00FE4D, 0x00005F_00FE4E, 0x00005F_00FE4F, 0x00002C_00FE50,
  0x003001_00FE51, 0x00003B_00FE54, 0x000021_00FE57, 0x002014_00FE58, 0x00007B_00FE5B,
  0x00007D_00FE5C, 0x000026_00FE60, 0x00002D_00FE63, 0x00003C_00FE64, 0x00003E_00FE65,
  0x00003D_00FE66, 0x000024_00FE69, 0x000626_00FE8A, 0x000626_00FE8B, 0x000628_00FE90,
  0x000628_00FE91, 0x00062A_00FE96, 0x00062A_00FE97, 0x00062B_00FE9A, 0x00062B_00FE9B,
  0x00062C_00FE9E, 0x00062C_00FE9F, 0x00062D_00FEA2, 0x00062D_00FEA3, 0x00062E_00FEA6,
  0x00062E_00FEA7, 0x000633_00FEB2, 0x000633_00FEB3, 0x000634_00FEB6, 0x000634_00FEB7,
  0x000635_00FEBA, 0x000635_00FEBB, 0x000636_00FEBE, 0x000636_00FEBF, 0x000637_00FEC2,
  0x000637_00FEC3, 0x000638_00FEC6, 0x000638_00FEC7, 0x000639_00FECA, 0x000639_00FECB,
  0x00063A_00FECE, 0x00063A_00FECF, 0x00063A_00FED0, 0x000641_00FED1, 0x000641_00FED2,
  0x000641_00FED3, 0x000642_00FED6, 0x000642_00FED7, 0x000643_00FEDA, 0x000643_00FEDB,
  0x000644_00FEDE, 0x000644_00FEDF, 0x000645_00FEE2, 0x000645_00FEE3, 0x000646_00FEE6,
  0x000646_00FEE7, 0x000647_00FEEA, 0x000647_00FEEB, 0x00064A_00FEF2, 0x00064A_00FEF3,
  0x00064A_00FEF4, 0x00002E_00FF61, 0x003001_00FF64, 0x0030FB_00FF65, 0x0030F2_00FF66,
  0x0030A1_00FF67, 0x0030A3_00FF68, 0x0030A5_00FF69, 0x0030A7_00FF6A, 0x0030A9_00FF6B,
  0x0030E3_00FF6C, 0x0030E5_00FF6D, 0x0030E7_00FF6E, 0x0030C3_00FF6F, 0x0030FC_00FF70,
  0x0030A2_00FF71, 0x0030A4_00FF72, 0x0030A6_00FF73, 0x0030A8_00FF74, 0x0030AD_00FF77,
  0x0030AF_00FF78, 0x0030B1_00FF79, 0x0030B3_00FF7A, 0x0030B5_00FF7B, 0x0030B7_00FF7C,
  0x0030B9_00FF7D, 0x0030BB_00FF7E, 0x0030BD_00FF7F, 0x0030BF_00FF80, 0x0030C1_00FF81,
  0x0030C4_00FF82, 0x0030C6_00FF83, 0x0030C8_00FF84, 0x0030D2_00FF8B, 0x0030D5_00FF8C,
  0x0030D8_00FF8D, 0x0030DB_00FF8E, 0x0030E4_00FF94, 0x0030E6_00FF95, 0x0030EF_00FF9C,
  0x0030F3_00FF9D, 0x001102_00FFA4, 0x0011AD_00FFA6, 0x00111A_00FFB0, 0x001121_00FFB4,
  0x0000AC_00FFE2, 0x0000A6_00FFE4, 0x0000A5_00FFE5, 0x0020A9_00FFE6, 0x002502_00FFE8,
  0x0025A0_00FFED, 0x0025CB_00FFEE, 0x0105BC_010595, 0x0000E6_010783, 0x000299_010784,
  0x000253_010785, 0x00AB66_010788, 0x0002A4_01078A, 0x001D91_01078D, 0x000258_01078E,
  0x00025E_01078F, 0x0002A9_010790, 0x000264_010791, 0x000262_010792, 0x000260_010793,
  0x00029B_010794, 0x000127_010795, 0x00029C_010796, 0x000267_010797, 0x000284_010798,
  0x00026C_01079B, 0x01DF04_01079C, 0x00A78E_01079D, 0x00026E_01079E, 0x01DF05_01079F,
  0x00028E_0107A0, 0x01DF06_0107A1, 0x0000F8_0107A2, 0x000071_0107A5, 0x00027A_0107A6,
  0x01DF08_0107A7, 0x000280_0107AA, 0x0002A8_0107AB, 0x0002A6_0107AC, 0x00AB67_0107AD,
  0x0002A7_0107AE, 0x000288_0107AF, 0x002C71_0107B0, 0x00028F_0107B2, 0x000298_0107B5,
  0x01DF0A_0107B9, 0x01DF1E_0107BA, 0x000064_01D49F, 0x000067_01D4A2, 0x00006F_01D546,
  0x000131_01D6A4, 0x000237_01D6A5, 0x0003B8_01D6B9, 0x002207_01D6C1, 0x0003C3_01D6D3,
  0x002202_01D6DB, 0x0003B5_01D6DC, 0x0003B8_01D6DD, 0x0003BA_01D6DE, 0x0003C6_01D6DF,
  0x0003C1_01D6E0, 0x0003C0_01D6E1, 0x0003B8_01D6F3, 0x002207_01D6FB, 0x0003C3_01D70D,
  0x002202_01D715, 0x0003B5_01D716, 0x0003B8_01D717, 0x0003BA_01D718, 0x0003C6_01D719,
  0x0003C1_01D71A, 0x0003C0_01D71B, 0x0003B8_01D72D, 0x002207_01D735, 0x0003C3_01D747,
  0x002202_01D74F, 0x0003B5_01D750, 0x0003B8_01D751, 0x0003BA_01D752, 0x0003C6_01D753,
  0x0003C1_01D754, 0x0003C0_01D755, 0x0003B8_01D767, 0x002207_01D76F, 0x0003C3_01D781,
  0x002202_01D789, 0x0003B5_01D78A, 0x0003B8_01D78B, 0x0003BA_01D78C, 0x0003C6_01D78D,
  0x0003C1_01D78E, 0x0003C0_01D78F, 0x0003B8_01D7A1, 0x002207_01D7A9, 0x0003C3_01D7BB,
  0x002202_01D7C3, 0x0003B5_01D7C4, 0x0003B8_01D7C5, 0x0003BA_01D7C6, 0x0003C6_01D7C7,
  0x0003C1_01D7C8, 0x0003C0_01D7C9, 0x0003DD_01D7CA, 0x0003DD_01D7CB, 0x00044B_01E047,
  0x00A689_01E04A, 0x0004D9_01E04B, 0x000456_01E04C, 0x000458_01E04D, 0x0004E9_01E04E,
  0x0004AF_01E04F, 0x0004CF_01E050, 0x000441_01E05E, 0x000491_01E067, 0x000456_01E068,
  0x000455_01E069, 0x00045F_01E06A, 0x0004AB_01E06B, 0x00A651_01E06C, 0x0004B1_01E06D,
  0x00062C_01EE02, 0x00062F_01EE03, 0x000648_01EE05, 0x000632_01EE06, 0x00062D_01EE07,
  0x000637_01EE08, 0x00064A_01EE09, 0x000633_01EE0E, 0x000639_01EE0F, 0x000641_01EE10,
  0x000635_01EE11, 0x000642_01EE12, 0x000631_01EE13, 0x000634_01EE14, 0x00062E_01EE17,
  0x000630_01EE18, 0x000636_01EE19, 0x000638_01EE1A, 0x00063A_01EE1B, 0x00066E_01EE1C,
  0x0006BA_01EE1D, 0x0006A1_01EE1E, 0x00066F_01EE1F, 0x000628_01EE21, 0x00062C_01EE22,
  0x000647_01EE24, 0x00062D_01EE27, 0x00064A_01EE29, 0x000633_01EE2E, 0x000639_01EE2F,
  0x000641_01EE30, 0x000635_01EE31, 0x000642_01EE32, 0x000634_01EE34, 0x00062E_01EE37,
  0x000636_01EE39, 0x00063A_01EE3B, 0x00062C_01EE42, 0x00062D_01EE47, 0x00064A_01EE49,
  0x000633_01EE4E, 0x000639_01EE4F, 0x000635_01EE51, 0x000642_01EE52, 0x000634_01EE54,
  0x00062E_01EE57, 0x000636_01EE59, 0x00063A_01EE5B, 0x0006BA_01EE5D, 0x00066F_01EE5F,
  0x000628_01EE61, 0x00062C_01EE62, 0x000647_01EE64, 0x00062D_01EE67, 0x000637_01EE68,
  0x00064A_01EE69, 0x000646_01EE6D, 0x000633_01EE6E, 0x000639_01EE6F, 0x000641_01EE70,
  0x000635_01EE71, 0x000642_01EE72, 0x000634_01EE74, 0x00062E_01EE77, 0x000636_01EE79,
  0x000638_01EE7A, 0x00063A_01EE7B, 0x00066E_01EE7C, 0x0006A1_01EE7E, 0x00062C_01EE82,
  0x00062F_01EE83, 0x000632_01EE86, 0x00062D_01EE87, 0x000637_01EE88, 0x00064A_01EE89,
  0x000633_01EE8E, 0x000639_01EE8F, 0x000641_01EE90, 0x000635_01EE91, 0x000642_01EE92,
  0x000631_01EE93, 0x000634_01EE94, 0x00062E_01EE97, 0x000630_01EE98, 0x000636_01EE99,
  0x000638_01EE9A, 0x00063A_01EE9B, 0x000628_01EEA1, 0x00062C_01EEA2, 0x00062F_01EEA3,
  0x000648_01EEA5, 0x000632_01EEA6, 0x00062D_01EEA7, 0x000637_01EEA8, 0x00064A_01EEA9,
  0x000633_01EEAE, 0x000639_01EEAF, 0x000641_01EEB0, 0x000635_01EEB1, 0x000642_01EEB2,
  0x000631_01EEB3, 0x000634_01EEB4, 0x00062E_01EEB7, 0x000630_01EEB8, 0x000636_01EEB9,
  0x000638_01EEBA, 0x00063A_01EEBB, 0x000063_01F12B, 0x000072_01F12C, 0x0030B5_01F202,
  0x00624B_01F210, 0x005B57_01F211, 0x0053CC_01F212, 0x0030C7_01F213, 0x004E8C_01F214,
  0x00591A_01F215, 0x0089E3_01F216, 0x005929_01F217, 0x004EA4_01F218, 0x006620_01F219,
  0x007121_01F21A, 0x006599_01F21B, 0x00524D_01F21C, 0x005F8C_01F21D, 0x00518D_01F21E,
  0x0065B0_01F21F, 0x00521D_01F220, 0x007D42_01F221, 0x00751F_01F222, 0x008CA9_01F223,
  0x0058F0_01F224, 0x005439_01F225, 0x006F14_01F226, 0x006295_01F227, 0x006355_01F228,
  0x004E00_01F229, 0x004E09_01F22A, 0x00904A_01F22B, 0x005DE6_01F22C, 0x004E2D_01F22D,
  0x0053F3_01F22E, 0x006307_01F22F, 0x008D70_01F230, 0x006253_01F231, 0x007981_01F232,
  0x007A7A_01F233, 0x005408_01F234, 0x006E80_01F235, 0x006709_01F236, 0x006708_01F237,
  0x007533_01F238, 0x005272_01F239, 0x0055B6_01F23A, 0x00914D_01F23B, 0x005F97_01F250,
  0x0053EF_01F251]

/-- Characters that stand for several each. -/
def ligatureFoldings : List Nat := [
  0x000034_002044_000031_0000BC, 0x000032_002044_000031_0000BD, 0x000034_002044_000033_0000BE,
  0x000307_000069_000130, 0x00006A_000069_000132, 0x00006A_000069_000133, 0x0000B7_00006C_00013F,
  0x0000B7_00006C_000140, 0x00006E_0002BC_000149, 0x00017E_000064_0001C4, 0x00017E_000064_0001C5,
  0x00017E_000064_0001C6, 0x00006A_00006C_0001C7, 0x00006A_00006C_0001C8, 0x00006A_00006C_0001C9,
  0x00006A_00006E_0001CA, 0x00006A_00006E_0001CB, 0x00006A_00006E_0001CC, 0x00007A_000064_0001F1,
  0x00007A_000064_0001F2, 0x00007A_000064_0001F3, 0x000582_000565_000587, 0x000674_000627_000675,
  0x000674_000648_000676, 0x000674_0006C7_000677, 0x000674_00064A_000678, 0x000E32_000E4D_000E33,
  0x000EB2_000ECD_000EB3, 0x000E99_000EAB_000EDC, 0x000EA1_000EAB_000EDD,
  0x000F80_000F71_000FB2_000F77, 0x000F80_000F71_000FB3_000F79, 0x0002BE_000061_001E9A,
  0x0003B9_001F00_001F80, 0x0003B9_001F01_001F81, 0x0003B9_001F02_001F82, 0x0003B9_001F03_001F83,
  0x0003B9_001F04_001F84, 0x0003B9_001F05_001F85, 0x0003B9_001F06_001F86, 0x0003B9_001F07_001F87,
  0x0003B9_001F00_001F88, 0x0003B9_001F01_001F89, 0x0003B9_001F02_001F8A, 0x0003B9_001F03_001F8B,
  0x0003B9_001F04_001F8C, 0x0003B9_001F05_001F8D, 0x0003B9_001F06_001F8E, 0x0003B9_001F07_001F8F,
  0x0003B9_001F20_001F90, 0x0003B9_001F21_001F91, 0x0003B9_001F22_001F92, 0x0003B9_001F23_001F93,
  0x0003B9_001F24_001F94, 0x0003B9_001F25_001F95, 0x0003B9_001F26_001F96, 0x0003B9_001F27_001F97,
  0x0003B9_001F20_001F98, 0x0003B9_001F21_001F99, 0x0003B9_001F22_001F9A, 0x0003B9_001F23_001F9B,
  0x0003B9_001F24_001F9C, 0x0003B9_001F25_001F9D, 0x0003B9_001F26_001F9E, 0x0003B9_001F27_001F9F,
  0x0003B9_001F60_001FA0, 0x0003B9_001F61_001FA1, 0x0003B9_001F62_001FA2, 0x0003B9_001F63_001FA3,
  0x0003B9_001F64_001FA4, 0x0003B9_001F65_001FA5, 0x0003B9_001F66_001FA6, 0x0003B9_001F67_001FA7,
  0x0003B9_001F60_001FA8, 0x0003B9_001F61_001FA9, 0x0003B9_001F62_001FAA, 0x0003B9_001F63_001FAB,
  0x0003B9_001F64_001FAC, 0x0003B9_001F65_001FAD, 0x0003B9_001F66_001FAE, 0x0003B9_001F67_001FAF,
  0x0003B9_001F70_001FB2, 0x0003B9_0003B1_001FB3, 0x0003B9_0003AC_001FB4, 0x0003B9_001FB6_001FB7,
  0x0003B9_0003B1_001FBC, 0x0003B9_001F74_001FC2, 0x0003B9_0003B7_001FC3, 0x0003B9_0003AE_001FC4,
  0x0003B9_001FC6_001FC7, 0x0003B9_0003B7_001FCC, 0x0003B9_001F7C_001FF2, 0x0003B9_0003C9_001FF3,
  0x0003B9_0003CE_001FF4, 0x0003B9_001FF6_001FF7, 0x0003B9_0003C9_001FFC, 0x002032_002032_002033,
  0x002032_002032_002032_002034, 0x002035_002035_002036, 0x002035_002035_002035_002037,
  0x000021_000021_00203C, 0x002032_002032_002032_002032_002057, 0x000073_000072_0020A8,
  0x000063_0000B0_002103, 0x000066_0000B0_002109, 0x00006F_00006E_002116, 0x00006D_000073_002120,
  0x00006C_000065_000074_002121, 0x00006D_000074_002122, 0x000078_000061_000066_00213B,
  0x000037_002044_000031_002150, 0x000039_002044_000031_002151,
  0x000030_000031_002044_000031_002152, 0x000033_002044_000031_002153,
  0x000033_002044_000032_002154, 0x000035_002044_000031_002155, 0x000035_002044_000032_002156,
  0x000035_002044_000033_002157, 0x000035_002044_000034_002158, 0x000036_002044_000031_002159,
  0x000036_002044_000035_00215A, 0x000038_002044_000031_00215B, 0x000038_002044_000033_00215C,
  0x000038_002044_000035_00215D, 0x000038_002044_000037_00215E, 0x002044_000031_00215F,
  0x000069_000069_002161, 0x000069_000069_000069_002162, 0x000076_000069_002163,
  0x000069_000076_002165, 0x000069_000069_000076_002166, 0x000069_000069_000069_000076_002167,
  0x000078_000069_002168, 0x000069_000078_00216A, 0x000069_000069_000078_00216B,
  0x000069_000069_002171, 0x000069_000069_000069_002172, 0x000076_000069_002173,
  0x000069_000076_002175, 0x000069_000069_000076_002176, 0x000069_000069_000069_000076_002177,
  0x000078_000069_002178, 0x000069_000078_00217A, 0x000069_000069_000078_00217B,
  0x000033_002044_000030_002189, 0x00222B_00222B_00222C, 0x00222B_00222B_00222B_00222D,
  0x00222E_00222E_00222F, 0x00222E_00222E_00222E_002230, 0x000030_000031_002469,
  0x000031_000031_00246A, 0x000032_000031_00246B, 0x000033_000031_00246C, 0x000034_000031_00246D,
  0x000035_000031_00246E, 0x000036_000031_00246F, 0x000037_000031_002470, 0x000038_000031_002471,
  0x000039_000031_002472, 0x000030_000032_002473, 0x000029_000031_000028_002474,
  0x000029_000032_000028_002475, 0x000029_000033_000028_002476, 0x000029_000034_000028_002477,
  0x000029_000035_000028_002478, 0x000029_000036_000028_002479, 0x000029_000037_000028_00247A,
  0x000029_000038_000028_00247B, 0x000029_000039_000028_00247C,
  0x000029_000030_000031_000028_00247D, 0x000029_000031_000031_000028_00247E,
  0x000029_000032_000031_000028_00247F, 0x000029_000033_000031_000028_002480,
  0x000029_000034_000031_000028_002481, 0x000029_000035_000031_000028_002482,
  0x000029_000036_000031_000028_002483, 0x000029_000037_000031_000028_002484,
  0x000029_000038_000031_000028_002485, 0x000029_000039_000031_000028_002486,
  0x000029_000030_000032_000028_002487, 0x000029_000061_000028_00249C,
  0x000029_000062_000028_00249D, 0x000029_000063_000028_00249E, 0x000029_000064_000028_00249F,
  0x000029_000065_000028_0024A0, 0x000029_000066_000028_0024A1, 0x000029_000067_000028_0024A2,
  0x000029_000068_000028_0024A3, 0x000029_000069_000028_0024A4, 0x000029_00006A_000028_0024A5,
  0x000029_00006B_000028_0024A6, 0x000029_00006C_000028_0024A7, 0x000029_00006D_000028_0024A8,
  0x000029_00006E_000028_0024A9, 0x000029_00006F_000028_0024AA, 0x000029_000070_000028_0024AB,
  0x000029_000071_000028_0024AC, 0x000029_000072_000028_0024AD, 0x000029_000073_000028_0024AE,
  0x000029_000074_000028_0024AF, 0x000029_000075_000028_0024B0, 0x000029_000076_000028_0024B1,
  0x000029_000077_000028_0024B2, 0x000029_000078_000028_0024B3, 0x000029_000079_000028_0024B4,
  0x000029_00007A_000028_0024B5, 0x00222B_00222B_00222B_00222B_002A0C, 0x00003D_00003D_002A75,
  0x00003D_00003D_00003D_002A76, 0x00308A_003088_00309F, 0x0030C8_0030B3_0030FF,
  0x000029_001100_000028_003200, 0x000029_001102_000028_003201, 0x000029_001103_000028_003202,
  0x000029_001105_000028_003203, 0x000029_001106_000028_003204, 0x000029_001107_000028_003205,
  0x000029_001109_000028_003206, 0x000029_00110B_000028_003207, 0x000029_00110C_000028_003208,
  0x000029_00110E_000028_003209, 0x000029_00110F_000028_00320A, 0x000029_001110_000028_00320B,
  0x000029_001111_000028_00320C, 0x000029_001112_000028_00320D, 0x000029_00AC00_000028_00320E,
  0x000029_00B098_000028_00320F, 0x000029_00B2E4_000028_003210, 0x000029_00B77C_000028_003211,
  0x000029_00B9C8_000028_003212, 0x000029_00BC14_000028_003213, 0x000029_00C0AC_000028_003214,
  0x000029_00C544_000028_003215, 0x000029_00C790_000028_003216, 0x000029_00CC28_000028_003217,
  0x000029_00CE74_000028_003218, 0x000029_00D0C0_000028_003219, 0x000029_00D30C_000028_00321A,
  0x000029_00D558_000028_00321B, 0x000029_00C8FC_000028_00321C,
  0x000029_00C804_00C624_000028_00321D, 0x000029_00D6C4_00C624_000028_00321E,
  0x000029_004E00_000028_003220, 0x000029_004E8C_000028_003221, 0x000029_004E09_000028_003222,
  0x000029_0056DB_000028_003223, 0x000029_004E94_000028_003224, 0x000029_00516D_000028_003225,
  0x000029_004E03_000028_003226, 0x000029_00516B_000028_003227, 0x000029_004E5D_000028_003228,
  0x000029_005341_000028_003229, 0x000029_006708_000028_00322A, 0x000029_00706B_000028_00322B,
  0x000029_006C34_000028_00322C, 0x000029_006728_000028_00322D, 0x000029_0091D1_000028_00322E,
  0x000029_00571F_000028_00322F, 0x000029_0065E5_000028_003230, 0x000029_00682A_000028_003231,
  0x000029_006709_000028_003232, 0x000029_00793E_000028_003233, 0x000029_00540D_000028_003234,
  0x000029_007279_000028_003235, 0x000029_008CA1_000028_003236, 0x000029_00795D_000028_003237,
  0x000029_0052B4_000028_003238, 0x000029_004EE3_000028_003239, 0x000029_00547C_000028_00323A,
  0x000029_005B66_000028_00323B, 0x000029_0076E3_000028_00323C, 0x000029_004F01_000028_00323D,
  0x000029_008CC7_000028_00323E, 0x000029_005354_000028_00323F, 0x000029_00796D_000028_003240,
  0x000029_004F11_000028_003241, 0x000029_0081EA_000028_003242, 0x000029_0081F3_000028_003243,
  0x000065_000074_000070_003250, 0x000031_000032_003251, 0x000032_000032_003252,
  0x000033_000032_003253, 0x000034_000032_003254, 0x000035_000032_003255, 0x000036_000032_003256,
  0x000037_000032_003257, 0x000038_000032_003258, 0x000039_000032_003259, 0x000030_000033_00325A,
  0x000031_000033_00325B, 0x000032_000033_00325C, 0x000033_000033_00325D, 0x000034_000033_00325E,
  0x000035_000033_00325F, 0x00ACE0_00CC38_00327C, 0x00C758_00C8FC_00327D, 0x000036_000033_0032B1,
  0x000037_000033_0032B2, 0x000038_000033_0032B3, 0x000039_000033_0032B4, 0x000030_000034_0032B5,
  0x000031_000034_0032B6, 0x000032_000034_0032B7, 0x000033_000034_0032B8, 0x000034_000034_0032B9,
  0x000035_000034_0032BA, 0x000036_000034_0032BB, 0x000037_000034_0032BC, 0x000038_000034_0032BD,
  0x000039_000034_0032BE, 0x000030_000035_0032BF, 0x006708_000031_0032C0, 0x006708_000032_0032C1,
  0x006708_000033_0032C2, 0x006708_000034_0032C3, 0x006708_000035_0032C4, 0x006708_000036_0032C5,
  0x006708_000037_0032C6, 0x006708_000038_0032C7, 0x006708_000039_0032C8,
  0x006708_000030_000031_0032C9, 0x006708_000031_000031_0032CA, 0x006708_000032_000031_0032CB,
  0x000067_000068_0032CC, 0x000067_000072_000065_0032CD, 0x000076_000065_0032CE,
  0x000064_000074_00006C_0032CF, 0x00548C_004EE4_0032FF, 0x0030C8_0030FC_0030D1_0030A2_003300,
  0x0030A1_0030D5_0030EB_0030A2_003301, 0x0030A2_0030DA_0030F3_0030A2_003302,
  0x0030EB_0030FC_0030A2_003303, 0x0030B0_0030F3_0030CB_0030A4_003304,
  0x0030C1_0030F3_0030A4_003305, 0x0030F3_0030A9_0030A6_003306,
  0x0030C9_0030FC_0030AF_0030B9_0030A8_003307, 0x0030FC_0030AB_0030FC_0030A8_003308,
  0x0030B9_0030F3_0030AA_003309, 0x0030E0_0030FC_0030AA_00330A, 0x0030EA_0030A4_0030AB_00330B,
  0x0030C8_0030C3_0030E9_0030AB_00330C, 0x0030FC_0030EA_0030ED_0030AB_00330D,
  0x0030F3_0030ED_0030AC_00330E, 0x0030DE_0030F3_0030AC_00330F, 0x0030AC_0030AE_003310,
  0x0030FC_0030CB_0030AE_003311, 0x0030FC_0030EA_0030E5_0030AD_003312,
  0x0030FC_0030C0_0030EB_0030AE_003313, 0x0030ED_0030AD_003314,
  0x0030E0_0030E9_0030B0_0030ED_0030AD_003315, 0x0030EB_0030C8_0030FC_0030E1_0030ED_0030AD_003316,
  0x0030C8_0030C3_0030EF_0030ED_0030AD_003317, 0x0030E0_0030E9_0030B0_003318,
  0x0030F3_0030C8_0030E0_0030E9_0030B0_003319, 0x0030ED_0030A4_0030BC_0030EB_0030AF_00331A,
  0x0030CD_0030FC_0030ED_0030AF_00331B, 0x0030B9_0030FC_0030B1_00331C,
  0x0030CA_0030EB_0030B3_00331D, 0x0030DD_0030FC_0030B3_00331E,
  0x0030EB_0030AF_0030A4_0030B5_00331F, 0x0030E0_0030FC_0030C1_0030F3_0030B5_003320,
  0x0030B0_0030F3_0030EA_0030B7_003321, 0x0030C1_0030F3_0030BB_003322,
  0x0030C8_0030F3_0030BB_003323, 0x0030B9_0030FC_0030C0_003324, 0x0030B7_0030C7_003325,
  0x0030EB_0030C9_003326, 0x0030F3_0030C8_003327, 0x0030CE_0030CA_003328,
  0x0030C8_0030C3_0030CE_003329, 0x0030C4_0030A4_0030CF_00332A,
  0x0030C8_0030F3_0030BB_0030FC_0030D1_00332B, 0x0030C4_0030FC_0030D1_00332C,
  0x0030EB_0030EC_0030FC_0030D0_00332D, 0x0030EB_0030C8_0030B9_0030A2_0030D4_00332E,
  0x0030EB_0030AF_0030D4_00332F, 0x0030B3_0030D4_003330, 0x0030EB_0030D3_003331,
  0x0030C9_0030C3_0030E9_0030A1_0030D5_003332, 0x0030C8_0030FC_0030A3_0030D5_003333,
  0x0030EB_0030A7_0030B7_0030C3_0030D6_003334, 0x0030F3_0030E9_0030D5_003335,
  0x0030EB_0030FC_0030BF_0030AF_0030D8_003336, 0x0030BD_0030DA_003337,
  0x0030D2_0030CB_0030DA_003338, 0x0030C4_0030EB_0030D8_003339, 0x0030B9_0030F3_0030DA_00333A,
  0x0030B8_0030FC_0030DA_00333B, 0x0030BF_0030FC_0030D9_00333C,
  0x0030C8_0030F3_0030A4_0030DD_00333D, 0x0030C8_0030EB_0030DC_00333E, 0x0030F3_0030DB_00333F,
  0x0030C9_0030F3_0030DD_003340, 0x0030EB_0030FC_0030DB_003341, 0x0030F3_0030FC_0030DB_003342,
  0x0030ED_0030AF_0030A4_0030DE_003343, 0x0030EB_0030A4_0030DE_003344,
  0x0030CF_0030C3_0030DE_003345, 0x0030AF_0030EB_0030DE_003346,
  0x0030F3_0030E7_0030B7_0030F3_0030DE_003347, 0x0030F3_0030ED_0030AF_0030DF_003348,
  0x0030EA_0030DF_003349, 0x0030EB_0030FC_0030D0_0030EA_0030DF_00334A, 0x0030AC_0030E1_00334B,
  0x0030F3_0030C8_0030AC_0030E1_00334C, 0x0030EB_0030C8_0030FC_0030E1_00334D,
  0x0030C9_0030FC_0030E4_00334E, 0x0030EB_0030FC_0030E4_00334F, 0x0030F3_0030A2_0030E6_003350,
  0x0030EB_0030C8_0030C3_0030EA_003351, 0x0030E9_0030EA_003352, 0x0030FC_0030D4_0030EB_003353,
  0x0030EB_0030D6_0030FC_0030EB_003354, 0x0030E0_0030EC_003355,
  0x0030F3_0030B2_0030C8_0030F3_0030EC_003356, 0x0030C8_0030C3_0030EF_003357,
  0x0070B9_000030_003358, 0x0070B9_000031_003359, 0x0070B9_000032_00335A, 0x0070B9_000033_00335B,
  0x0070B9_000034_00335C, 0x0070B9_000035_00335D, 0x0070B9_000036_00335E, 0x0070B9_000037_00335F,
  0x0070B9_000038_003360, 0x0070B9_000039_003361, 0x0070B9_000030_000031_003362,
  0x0070B9_000031_000031_003363, 0x0070B9_000032_000031_003364, 0x0070B9_000033_000031_003365,
  0x0070B9_000034_000031_003366, 0x0070B9_000035_000031_003367, 0x0070B9_000036_000031_003368,
  0x0070B9_000037_000031_003369, 0x0070B9_000038_000031_00336A, 0x0070B9_000039_000031_00336B,
  0x0070B9_000030_000032_00336C, 0x0070B9_000031_000032_00336D, 0x0070B9_000032_000032_00336E,
  0x0070B9_000033_000032_00336F, 0x0070B9_000034_000032_003370, 0x000061_000070_000068_003371,
  0x000061_000064_003372, 0x000075_000061_003373, 0x000072_000061_000062_003374,
  0x000076_00006F_003375, 0x000063_000070_003376, 0x00006D_000064_003377,
  0x000032_00006D_000064_003378, 0x000033_00006D_000064_003379, 0x000075_000069_00337A,
  0x006210_005E73_00337B, 0x00548C_00662D_00337C, 0x006B63_005927_00337D, 0x006CBB_00660E_00337E,
  0x00793E_004F1A_005F0F_00682A_00337F, 0x000061_000070_003380, 0x000061_00006E_003381,
  0x000061_0003BC_003382, 0x000061_00006D_003383, 0x000061_00006B_003384, 0x000062_00006B_003385,
  0x000062_00006D_003386, 0x000062_000067_003387, 0x00006C_000061_000063_003388,
  0x00006C_000061_000063_00006B_003389, 0x000066_000070_00338A, 0x000066_00006E_00338B,
  0x000066_0003BC_00338C, 0x000067_0003BC_00338D, 0x000067_00006D_00338E, 0x000067_00006B_00338F,
  0x00007A_000068_003390, 0x00007A_000068_00006B_003391, 0x00007A_000068_00006D_003392,
  0x00007A_000068_000067_003393, 0x00007A_000068_000074_003394, 0x00006C_0003BC_003395,
  0x00006C_00006D_003396, 0x00006C_000064_003397, 0x00006C_00006B_003398, 0x00006D_000066_003399,
  0x00006D_00006E_00339A, 0x00006D_0003BC_00339B, 0x00006D_00006D_00339C, 0x00006D_000063_00339D,
  0x00006D_00006B_00339E, 0x000032_00006D_00006D_00339F, 0x000032_00006D_000063_0033A0,
  0x000032_00006D_0033A1, 0x000032_00006D_00006B_0033A2, 0x000033_00006D_00006D_0033A3,
  0x000033_00006D_000063_0033A4, 0x000033_00006D_0033A5, 0x000033_00006D_00006B_0033A6,
  0x000073_002215_00006D_0033A7, 0x000032_000073_002215_00006D_0033A8, 0x000061_000070_0033A9,
  0x000061_000070_00006B_0033AA, 0x000061_000070_00006D_0033AB, 0x000061_000070_000067_0033AC,
  0x000064_000061_000072_0033AD, 0x000073_002215_000064_000061_000072_0033AE,
  0x000032_000073_002215_000064_000061_000072_0033AF, 0x000073_000070_0033B0,
  0x000073_00006E_0033B1, 0x000073_0003BC_0033B2, 0x000073_00006D_0033B3, 0x000076_000070_0033B4,
  0x000076_00006E_0033B5, 0x000076_0003BC_0033B6, 0x000076_00006D_0033B7, 0x000076_00006B_0033B8,
  0x000076_00006D_0033B9, 0x000077_000070_0033BA, 0x000077_00006E_0033BB, 0x000077_0003BC_0033BC,
  0x000077_00006D_0033BD, 0x000077_00006B_0033BE, 0x000077_00006D_0033BF, 0x0003C9_00006B_0033C0,
  0x0003C9_00006D_0033C1, 0x000071_000062_0033C3, 0x000063_000063_0033C4, 0x000064_000063_0033C5,
  0x000067_00006B_002215_000063_0033C6, 0x000062_000064_0033C8, 0x000079_000067_0033C9,
  0x000061_000068_0033CA, 0x000070_000068_0033CB, 0x00006E_000069_0033CC, 0x00006B_00006B_0033CD,
  0x00006D_00006B_0033CE, 0x000074_00006B_0033CF, 0x00006D_00006C_0033D0, 0x00006E_00006C_0033D1,
  0x000067_00006F_00006C_0033D2, 0x000078_00006C_0033D3, 0x000062_00006D_0033D4,
  0x00006C_000069_00006D_0033D5, 0x00006C_00006F_00006D_0033D6, 0x000068_000070_0033D7,
  0x00006D_000070_000070_0033D9, 0x000072_000070_0033DA, 0x000072_000073_0033DB,
  0x000076_000073_0033DC, 0x000062_000077_0033DD, 0x00006D_002215_000076_0033DE,
  0x00006D_002215_000061_0033DF, 0x0065E5_000031_0033E0, 0x0065E5_000032_0033E1,
  0x0065E5_000033_0033E2, 0x0065E5_000034_0033E3, 0x0065E5_000035_0033E4, 0x0065E5_000036_0033E5,
  0x0065E5_000037_0033E6, 0x0065E5_000038_0033E7, 0x0065E5_000039_0033E8,
  0x0065E5_000030_000031_0033E9, 0x0065E5_000031_000031_0033EA, 0x0065E5_000032_000031_0033EB,
  0x0065E5_000033_000031_0033EC, 0x0065E5_000034_000031_0033ED, 0x0065E5_000035_000031_0033EE,
  0x0065E5_000036_000031_0033EF, 0x0065E5_000037_000031_0033F0, 0x0065E5_000038_000031_0033F1,
  0x0065E5_000039_000031_0033F2, 0x0065E5_000030_000032_0033F3, 0x0065E5_000031_000032_0033F4,
  0x0065E5_000032_000032_0033F5, 0x0065E5_000033_000032_0033F6, 0x0065E5_000034_000032_0033F7,
  0x0065E5_000035_000032_0033F8, 0x0065E5_000036_000032_0033F9, 0x0065E5_000037_000032_0033FA,
  0x0065E5_000038_000032_0033FB, 0x0065E5_000039_000032_0033FC, 0x0065E5_000030_000033_0033FD,
  0x0065E5_000031_000033_0033FE, 0x00006C_000061_000067_0033FF, 0x000066_000066_00FB00,
  0x000069_000066_00FB01, 0x00006C_000066_00FB02, 0x000069_000066_000066_00FB03,
  0x00006C_000066_000066_00FB04, 0x000074_000073_00FB05, 0x000074_000073_00FB06,
  0x000576_000574_00FB13, 0x000565_000574_00FB14, 0x00056B_000574_00FB15, 0x000576_00057E_00FB16,
  0x00056D_000574_00FB17, 0x0005DC_0005D0_00FB4F, 0x000674_0006C7_00FBDD, 0x000627_000626_00FBEA,
  0x000627_000626_00FBEB, 0x0006D5_000626_00FBEC, 0x0006D5_000626_00FBED, 0x000648_000626_00FBEE,
  0x000648_000626_00FBEF, 0x0006C7_000626_00FBF0, 0x0006C7_000626_00FBF1, 0x0006C6_000626_00FBF2,
  0x0006C6_000626_00FBF3, 0x0006C8_000626_00FBF4, 0x0006C8_000626_00FBF5, 0x0006D0_000626_00FBF6,
  0x0006D0_000626_00FBF7, 0x0006D0_000626_00FBF8, 0x000649_000626_00FBF9, 0x000649_000626_00FBFA,
  0x000649_000626_00FBFB, 0x00062C_000626_00FC00, 0x00062D_000626_00FC01, 0x000645_000626_00FC02,
  0x000649_000626_00FC03, 0x00064A_000626_00FC04, 0x00062C_000628_00FC05, 0x00062D_000628_00FC06,
  0x00062E_000628_00FC07, 0x000645_000628_00FC08, 0x000649_000628_00FC09, 0x00064A_000628_00FC0A,
  0x00062C_00062A_00FC0B, 0x00062D_00062A_00FC0C, 0x00062E_00062A_00FC0D, 0x000645_00062A_00FC0E,
  0x000649_00062A_00FC0F, 0x00064A_00062A_00FC10, 0x00062C_00062B_00FC11, 0x000645_00062B_00FC12,
  0x000649_00062B_00FC13, 0x00064A_00062B_00FC14, 0x00062D_00062C_00FC15, 0x000645_00062C_00FC16,
  0x00062C_00062D_00FC17, 0x000645_00062D_00FC18, 0x00062C_00062E_00FC19, 0x00062D_00062E_00FC1A,
  0x000645_00062E_00FC1B, 0x00062C_000633_00FC1C, 0x00062D_000633_00FC1D, 0x00062E_000633_00FC1E,
  0x000645_000633_00FC1F, 0x00062D_000635_00FC20, 0x000645_000635_00FC21, 0x00062C_000636_00FC22,
  0x00062D_000636_00FC23, 0x00062E_000636_00FC24, 0x000645_000636_00FC25, 0x00062D_000637_00FC26,
  0x000645_000637_00FC27, 0x000645_000638_00FC28, 0x00062C_000639_00FC29, 0x000645_000639_00FC2A,
  0x00062C_00063A_00FC2B, 0x000645_00063A_00FC2C, 0x00062C_000641_00FC2D, 0x00062D_000641_00FC2E,
  0x00062E_000641_00FC2F, 0x000645_000641_00FC30, 0x000649_000641_00FC31, 0x00064A_000641_00FC32,
  0x00062D_000642_00FC33, 0x000645_000642_00FC34, 0x000649_000642_00FC35, 0x00064A_000642_00FC36,
  0x000627_000643_00FC37, 0x00062C_000643_00FC38, 0x00062D_000643_00FC39, 0x00062E_000643_00FC3A,
  0x000644_000643_00FC3B, 0x000645_000643_00FC3C, 0x000649_000643_00FC3D, 0x00064A_000643_00FC3E,
  0x00062C_000644_00FC3F, 0x00062D_000644_00FC40, 0x00062E_000644_00FC41, 0x000645_000644_00FC42,
  0x000649_000644_00FC43, 0x00064A_000644_00FC44, 0x00062C_000645_00FC45, 0x00062D_000645_00FC46,
  0x00062E_000645_00FC47, 0x000645_000645_00FC48, 0x000649_000645_00FC49, 0x00064A_000645_00FC4A,
  0x00062C_000646_00FC4B, 0x00062D_000646_00FC4C, 0x00062E_000646_00FC4D, 0x000645_000646_00FC4E,
  0x000649_000646_00FC4F, 0x00064A_000646_00FC50, 0x00062C_000647_00FC51, 0x000645_000647_00FC52,
  0x000649_000647_00FC53, 0x00064A_000647_00FC54, 0x00062C_00064A_00FC55, 0x00062D_00064A_00FC56,
  0x00062E_00064A_00FC57, 0x000645_00064A_00FC58, 0x000649_00064A_00FC59, 0x00064A_00064A_00FC5A,
  0x000670_000630_00FC5B, 0x000670_000631_00FC5C, 0x000670_000649_00FC5D, 0x000631_000626_00FC64,
  0x000632_000626_00FC65, 0x000645_000626_00FC66, 0x000646_000626_00FC67, 0x000649_000626_00FC68,
  0x00064A_000626_00FC69, 0x000631_000628_00FC6A, 0x000632_000628_00FC6B, 0x000645_000628_00FC6C,
  0x000646_000628_00FC6D, 0x000649_000628_00FC6E, 0x00064A_000628_00FC6F, 0x000631_00062A_00FC70,
  0x000632_00062A_00FC71, 0x000645_00062A_00FC72, 0x000646_00062A_00FC73, 0x000649_00062A_00FC74,
  0x00064A_00062A_00FC75, 0x000631_00062B_00FC76, 0x000632_00062B_00FC77, 0x000645_00062B_00FC78,
  0x000646_00062B_00FC79, 0x000649_00062B_00FC7A, 0x00064A_00062B_00FC7B, 0x000649_000641_00FC7C,
  0x00064A_000641_00FC7D, 0x000649_000642_00FC7E, 0x00064A_000642_00FC7F, 0x000627_000643_00FC80,
  0x000644_000643_00FC81, 0x000645_000643_00FC82, 0x000649_000643_00FC83, 0x00064A_000643_00FC84,
  0x000645_000644_00FC85, 0x000649_000644_00FC86, 0x00064A_000644_00FC87, 0x000627_000645_00FC88,
  0x000645_000645_00FC89, 0x000631_000646_00FC8A, 0x000632_000646_00FC8B, 0x000645_000646_00FC8C,
  0x000646_000646_00FC8D, 0x000649_000646_00FC8E, 0x00064A_000646_00FC8F, 0x000670_000649_00FC90,
  0x000631_00064A_00FC91, 0x000632_00064A_00FC92, 0x000645_00064A_00FC93, 0x000646_00064A_00FC94,
  0x000649_00064A_00FC95, 0x00064A_00064A_00FC96, 0x00062C_000626_00FC97, 0x00062D_000626_00FC98,
  0x00062E_000626_00FC99, 0x000645_000626_00FC9A, 0x000647_000626_00FC9B, 0x00062C_000628_00FC9C,
  0x00062D_000628_00FC9D, 0x00062E_000628_00FC9E, 0x000645_000628_00FC9F, 0x000647_000628_00FCA0,
  0x00062C_00062A_00FCA1, 0x00062D_00062A_00FCA2, 0x00062E_00062A_00FCA3, 0x000645_00062A_00FCA4,
  0x000647_00062A_00FCA5, 0x000645_00062B_00FCA6, 0x00062D_00062C_00FCA7, 0x000645_00062C_00FCA8,
  0x00062C_00062D_00FCA9, 0x000645_00062D_00FCAA, 0x00062C_00062E_00FCAB, 0x000645_00062E_00FCAC,
  0x00062C_000633_00FCAD, 0x00062D_000633_00FCAE, 0x00062E_000633_00FCAF, 0x000645_000633_00FCB0,
  0x00062D_000635_00FCB1, 0x00062E_000635_00FCB2, 0x000645_000635_00FCB3, 0x00062C_000636_00FCB4,
  0x00062D_000636_00FCB5, 0x00062E_000636_00FCB6, 0x000645_000636_00FCB7, 0x00062D_000637_00FCB8,
  0x000645_000638_00FCB9, 0x00062C_000639_00FCBA, 0x000645_000639_00FCBB, 0x00062C_00063A_00FCBC,
  0x000645_00063A_00FCBD, 0x00062C_000641_00FCBE, 0x00062D_000641_00FCBF, 0x00062E_000641_00FCC0,
  0x000645_000641_00FCC1, 0x00062D_000642_00FCC2, 0x000645_000642_00FCC3, 0x00062C_000643_00FCC4,
  0x00062D_000643_00FCC5, 0x00062E_000643_00FCC6, 0x000644_000643_00FCC7, 0x000645_000643_00FCC8,
  0x00062C_000644_00FCC9, 0x00062D_000644_00FCCA, 0x00062E_000644_00FCCB, 0x000645_000644_00FCCC,
  0x000647_000644_00FCCD, 0x00062C_000645_00FCCE, 0x00062D_000645_00FCCF, 0x00062E_000645_00FCD0,
  0x000645_000645_00FCD1, 0x00062C_000646_00FCD2, 0x00062D_000646_00FCD3, 0x00062E_000646_00FCD4,
  0x000645_000646_00FCD5, 0x000647_000646_00FCD6, 0x00062C_000647_00FCD7, 0x000645_000647_00FCD8,
  0x000670_000647_00FCD9, 0x00062C_00064A_00FCDA, 0x00062D_00064A_00FCDB, 0x00062E_00064A_00FCDC,
  0x000645_00064A_00FCDD, 0x000647_00064A_00FCDE, 0x000645_000626_00FCDF, 0x000647_000626_00FCE0,
  0x000645_000628_00FCE1, 0x000647_000628_00FCE2, 0x000645_00062A_00FCE3, 0x000647_00062A_00FCE4,
  0x000645_00062B_00FCE5, 0x000647_00062B_00FCE6, 0x000645_000633_00FCE7, 0x000647_000633_00FCE8,
  0x000645_000634_00FCE9, 0x000647_000634_00FCEA, 0x000644_000643_00FCEB, 0x000645_000643_00FCEC,
  0x000645_000644_00FCED, 0x000645_000646_00FCEE, 0x000647_000646_00FCEF, 0x000645_00064A_00FCF0,
  0x000647_00064A_00FCF1, 0x000651_00064E_000640_00FCF2, 0x000651_00064F_000640_00FCF3,
  0x000651_000650_000640_00FCF4, 0x000649_000637_00FCF5, 0x00064A_000637_00FCF6,
  0x000649_000639_00FCF7, 0x00064A_000639_00FCF8, 0x000649_00063A_00FCF9, 0x00064A_00063A_00FCFA,
  0x000649_000633_00FCFB, 0x00064A_000633_00FCFC, 0x000649_000634_00FCFD, 0x00064A_000634_00FCFE,
  0x000649_00062D_00FCFF, 0x00064A_00062D_00FD00, 0x000649_00062C_00FD01, 0x00064A_00062C_00FD02,
  0x000649_00062E_00FD03, 0x00064A_00062E_00FD04, 0x000649_000635_00FD05, 0x00064A_000635_00FD06,
  0x000649_000636_00FD07, 0x00064A_000636_00FD08, 0x00062C_000634_00FD09, 0x00062D_000634_00FD0A,
  0x00062E_000634_00FD0B, 0x000645_000634_00FD0C, 0x000631_000634_00FD0D, 0x000631_000633_00FD0E,
  0x000631_000635_00FD0F, 0x000631_000636_00FD10, 0x000649_000637_00FD11, 0x00064A_000637_00FD12,
  0x000649_000639_00FD13, 0x00064A_000639_00FD14, 0x000649_00063A_00FD15, 0x00064A_00063A_00FD16,
  0x000649_000633_00FD17, 0x00064A_000633_00FD18, 0x000649_000634_00FD19, 0x00064A_000634_00FD1A,
  0x000649_00062D_00FD1B, 0x00064A_00062D_00FD1C, 0x000649_00062C_00FD1D, 0x00064A_00062C_00FD1E,
  0x000649_00062E_00FD1F, 0x00064A_00062E_00FD20, 0x000649_000635_00FD21, 0x00064A_000635_00FD22,
  0x000649_000636_00FD23, 0x00064A_000636_00FD24, 0x00062C_000634_00FD25, 0x00062D_000634_00FD26,
  0x00062E_000634_00FD27, 0x000645_000634_00FD28, 0x000631_000634_00FD29, 0x000631_000633_00FD2A,
  0x000631_000635_00FD2B, 0x000631_000636_00FD2C, 0x00062C_000634_00FD2D, 0x00062D_000634_00FD2E,
  0x00062E_000634_00FD2F, 0x000645_000634_00FD30, 0x000647_000633_00FD31, 0x000647_000634_00FD32,
  0x000645_000637_00FD33, 0x00062C_000633_00FD34, 0x00062D_000633_00FD35, 0x00062E_000633_00FD36,
  0x00062C_000634_00FD37, 0x00062D_000634_00FD38, 0x00062E_000634_00FD39, 0x000645_000637_00FD3A,
  0x000645_000638_00FD3B, 0x00064B_000627_00FD3C, 0x00064B_000627_00FD3D,
  0x000645_00062C_00062A_00FD50, 0x00062C_00062D_00062A_00FD51, 0x00062C_00062D_00062A_00FD52,
  0x000645_00062D_00062A_00FD53, 0x000645_00062E_00062A_00FD54, 0x00062C_000645_00062A_00FD55,
  0x00062D_000645_00062A_00FD56, 0x00062E_000645_00062A_00FD57, 0x00062D_000645_00062C_00FD58,
  0x00062D_000645_00062C_00FD59, 0x00064A_000645_00062D_00FD5A, 0x000649_000645_00062D_00FD5B,
  0x00062C_00062D_000633_00FD5C, 0x00062D_00062C_000633_00FD5D, 0x000649_00062C_000633_00FD5E,
  0x00062D_000645_000633_00FD5F, 0x00062D_000645_000633_00FD60, 0x00062C_000645_000633_00FD61,
  0x000645_000645_000633_00FD62, 0x000645_000645_000633_00FD63, 0x00062D_00062D_000635_00FD64,
  0x00062D_00062D_000635_00FD65, 0x000645_000645_000635_00FD66, 0x000645_00062D_000634_00FD67,
  0x000645_00062D_000634_00FD68, 0x00064A_00062C_000634_00FD69, 0x00062E_000645_000634_00FD6A,
  0x00062E_000645_000634_00FD6B, 0x000645_000645_000634_00FD6C, 0x000645_000645_000634_00FD6D,
  0x000649_00062D_000636_00FD6E, 0x000645_00062E_000636_00FD6F, 0x000645_00062E_000636_00FD70,
  0x00062D_000645_000637_00FD71, 0x00062D_000645_000637_00FD72, 0x000645_000645_000637_00FD73,
  0x00064A_000645_000637_00FD74, 0x000645_00062C_000639_00FD75, 0x000645_000645_000639_00FD76,
  0x000645_000645_000639_00FD77, 0x000649_000645_000639_00FD78, 0x000645_000645_00063A_00FD79,
  0x00064A_000645_00063A_00FD7A, 0x000649_000645_00063A_00FD7B, 0x000645_00062E_000641_00FD7C,
  0x000645_00062E_000641_00FD7D, 0x00062D_000645_000642_00FD7E, 0x000645_000645_000642_00FD7F,
  0x000645_00062D_000644_00FD80, 0x00064A_00062D_000644_00FD81, 0x000649_00062D_000644_00FD82,
  0x00062C_00062C_000644_00FD83, 0x00062C_00062C_000644_00FD84, 0x000645_00062E_000644_00FD85,
  0x000645_00062E_000644_00FD86, 0x00062D_000645_000644_00FD87, 0x00062D_000645_000644_00FD88,
  0x00062C_00062D_000645_00FD89, 0x000645_00062D_000645_00FD8A, 0x00064A_00062D_000645_00FD8B,
  0x00062D_00062C_000645_00FD8C, 0x000645_00062C_000645_00FD8D, 0x00062C_00062E_000645_00FD8E,
  0x000645_00062E_000645_00FD8F, 0x00062E_00062C_000645_00FD92, 0x00062C_000645_000647_00FD93,
  0x000645_000645_000647_00FD94, 0x000645_00062D_000646_00FD95, 0x000649_00062D_000646_00FD96,
  0x000645_00062C_000646_00FD97, 0x000645_00062C_000646_00FD98, 0x000649_00062C_000646_00FD99,
  0x00064A_000645_000646_00FD9A, 0x000649_000645_000646_00FD9B, 0x000645_000645_00064A_00FD9C,
  0x000645_000645_00064A_00FD9D, 0x00064A_00062E_000628_00FD9E, 0x00064A_00062C_00062A_00FD9F,
  0x000649_00062C_00062A_00FDA0, 0x00064A_00062E_00062A_00FDA1, 0x000649_00062E_00062A_00FDA2,
  0x00064A_000645_00062A_00FDA3, 0x000649_000645_00062A_00FDA4, 0x00064A_000645_00062C_00FDA5,
  0x000649_00062D_00062C_00FDA6, 0x000649_000645_00062C_00FDA7, 0x000649_00062E_000633_00FDA8,
  0x00064A_00062D_000635_00FDA9, 0x00064A_00062D_000634_00FDAA, 0x00064A_00062D_000636_00FDAB,
  0x00064A_00062C_000644_00FDAC, 0x00064A_000645_000644_00FDAD, 0x00064A_00062D_00064A_00FDAE,
  0x00064A_00062C_00064A_00FDAF, 0x00064A_000645_00064A_00FDB0, 0x00064A_000645_000645_00FDB1,
  0x00064A_000645_000642_00FDB2, 0x00064A_00062D_000646_00FDB3, 0x00062D_000645_000642_00FDB4,
  0x000645_00062D_000644_00FDB5, 0x00064A_000645_000639_00FDB6, 0x00064A_000645_000643_00FDB7,
  0x00062D_00062C_000646_00FDB8, 0x00064A_00062E_000645_00FDB9, 0x000645_00062C_000644_00FDBA,
  0x000645_000645_000643_00FDBB, 0x000645_00062C_000644_00FDBC, 0x00062D_00062C_000646_00FDBD,
  0x00064A_00062D_00062C_00FDBE, 0x00064A_00062C_00062D_00FDBF, 0x00064A_00062C_000645_00FDC0,
  0x00064A_000645_000641_00FDC1, 0x00064A_00062D_000628_00FDC2, 0x000645_000645_000643_00FDC3,
  0x000645_00062C_000639_00FDC4, 0x000645_000645_000635_00FDC5, 0x00064A_00062E_000633_00FDC6,
  0x00064A_00062C_000646_00FDC7, 0x0006D2_000644_000635_00FDF0, 0x0006D2_000644_000642_00FDF1,
  0x000647_000644_000644_000627_00FDF2, 0x000631_000628_000643_000627_00FDF3,
  0x00062F_000645_00062D_000645_00FDF4, 0x000645_000639_000644_000635_00FDF5,
  0x000644_000648_000633_000631_00FDF6, 0x000647_00064A_000644_000639_00FDF7,
  0x000645_000644_000633_000648_00FDF8, 0x000649_000644_000635_00FDF9,
  0x000644_000627_0006CC_000631_00FDFC, 0x00064B_000640_00FE71, 0x00064E_000640_00FE77,
  0x00064F_000640_00FE79, 0x000650_000640_00FE7B, 0x000651_000640_00FE7D, 0x000652_000640_00FE7F,
  0x000622_000644_00FEF5, 0x000622_000644_00FEF6, 0x000623_000644_00FEF7, 0x000623_000644_00FEF8,
  0x000625_000644_00FEF9, 0x000625_000644_00FEFA, 0x000627_000644_00FEFB, 0x000627_000644_00FEFC,
  0x00002C_000030_01F101, 0x00002C_000031_01F102, 0x00002C_000032_01F103, 0x00002C_000033_01F104,
  0x00002C_000034_01F105, 0x00002C_000035_01F106, 0x00002C_000036_01F107, 0x00002C_000037_01F108,
  0x00002C_000038_01F109, 0x00002C_000039_01F10A, 0x000029_000061_000028_01F110,
  0x000029_000062_000028_01F111, 0x000029_000063_000028_01F112, 0x000029_000064_000028_01F113,
  0x000029_000065_000028_01F114, 0x000029_000066_000028_01F115, 0x000029_000067_000028_01F116,
  0x000029_000068_000028_01F117, 0x000029_000069_000028_01F118, 0x000029_00006A_000028_01F119,
  0x000029_00006B_000028_01F11A, 0x000029_00006C_000028_01F11B, 0x000029_00006D_000028_01F11C,
  0x000029_00006E_000028_01F11D, 0x000029_00006F_000028_01F11E, 0x000029_000070_000028_01F11F,
  0x000029_000071_000028_01F120, 0x000029_000072_000028_01F121, 0x000029_000073_000028_01F122,
  0x000029_000074_000028_01F123, 0x000029_000075_000028_01F124, 0x000029_000076_000028_01F125,
  0x000029_000077_000028_01F126, 0x000029_000078_000028_01F127, 0x000029_000079_000028_01F128,
  0x000029_00007A_000028_01F129, 0x003015_000073_003014_01F12A, 0x000064_000063_01F12D,
  0x00007A_000077_01F12E, 0x000076_000068_01F14A, 0x000076_00006D_01F14B, 0x000064_000073_01F14C,
  0x000073_000073_01F14D, 0x000076_000070_000070_01F14E, 0x000063_000077_01F14F,
  0x000063_00006D_01F16A, 0x000064_00006D_01F16B, 0x000072_00006D_01F16C, 0x00006A_000064_01F190,
  0x00304B_00307B_01F200, 0x0030B3_0030B3_01F201, 0x003015_00672C_003014_01F240,
  0x003015_004E09_003014_01F241, 0x003015_004E8C_003014_01F242, 0x003015_005B89_003014_01F243,
  0x003015_0070B9_003014_01F244, 0x003015_006253_003014_01F245, 0x003015_0076D7_003014_01F246,
  0x003015_0052DD_003014_01F247, 0x003015_006557_003014_01F248]

/-- What a character stands for by a run that it belongs to. -/
def runTarget? (c : Char) (run : Nat) : Option Char :=
  let first := run / 0x1000000000
  let step := run / 0x1000000 % 0x10
  let distance := c.toNat - first
  if first ≤ c.toNat ∧ distance % step = 0 ∧ distance / step ≤ run / 0x10000000 % 0x100 then
    some (Char.ofNat (run % 0x1000000 + distance))
  else none

/-- The text that a character stands for, if that is another. -/
def folded? (c : Char) : Option (List Char) :=
  match foldingRuns.findSome? (runTarget? c) with
  | some d => some [d]
  | none => (Table.textOf? letterFoldings c).or (Table.textOf? ligatureFoldings c)

end ServedMedia.Domain
