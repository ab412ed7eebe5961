import ServedMedia.Text.Table

/-!
# Canonical decompositions

The full canonical decomposition of every character that has one, by the
Unicode Character Database.  Hangul syllables are decomposed by arithmetic.
-/

namespace ServedMedia.Canonical

/-- Ideographs that are encoded twice, each with the unified ideograph that it decomposes to. -/
def ideographs : List Nat := [
  0x008C48_00F900, 0x0066F4_00F901, 0x008ECA_00F902, 0x008CC8_00F903,
  0x006ED1_00F904, 0x004E32_00F905, 0x0053E5_00F906, 0x009F9C_00F907,
  0x009F9C_00F908, 0x005951_00F909, 0x0091D1_00F90A, 0x005587_00F90B,
  0x005948_00F90C, 0x0061F6_00F90D, 0x007669_00F90E, 0x007F85_00F90F,
  0x00863F_00F910, 0x0087BA_00F911, 0x0088F8_00F912, 0x00908F_00F913,
  0x006A02_00F914, 0x006D1B_00F915, 0x0070D9_00F916, 0x0073DE_00F917,
  0x00843D_00F918, 0x00916A_00F919, 0x0099F1_00F91A, 0x004E82_00F91B,
  0x005375_00F91C, 0x006B04_00F91D, 0x00721B_00F91E, 0x00862D_00F91F,
  0x009E1E_00F920, 0x005D50_00F921, 0x006FEB_00F922, 0x0085CD_00F923,
  0x008964_00F924, 0x0062C9_00F925, 0x0081D8_00F926, 0x00881F_00F927,
  0x005ECA_00F928, 0x006717_00F929, 0x006D6A_00F92A, 0x0072FC_00F92B,
  0x0090CE_00F92C, 0x004F86_00F92D, 0x0051B7_00F92E, 0x0052DE_00F92F,
  0x0064C4_00F930, 0x006AD3_00F931, 0x007210_00F932, 0x0076E7_00F933,
  0x008001_00F934, 0x008606_00F935, 0x00865C_00F936, 0x008DEF_00F937,
  0x009732_00F938, 0x009B6F_00F939, 0x009DFA_00F93A, 0x00788C_00F93B,
  0x00797F_00F93C, 0x007DA0_00F93D, 0x0083C9_00F93E, 0x009304_00F93F,
  0x009E7F_00F940, 0x008AD6_00F941, 0x0058DF_00F942, 0x005F04_00F943,
  0x007C60_00F944, 0x00807E_00F945, 0x007262_00F946, 0x0078CA_00F947,
  0x008CC2_00F948, 0x0096F7_00F949, 0x0058D8_00F94A, 0x005C62_00F94B,
  0x006A13_00F94C, 0x006DDA_00F94D, 0x006F0F_00F94E, 0x007D2F_00F94F,
  0x007E37_00F950, 0x00964B_00F951, 0x0052D2_00F952, 0x00808B_00F953,
  0x0051DC_00F954, 0x0051CC_00F955, 0x007A1C_00F956, 0x007DBE_00F957,
  0x0083F1_00F958, 0x009675_00F959, 0x008B80_00F95A, 0x0062CF_00F95B,
  0x006A02_00F95C, 0x008AFE_00F95D, 0x004E39_00F95E, 0x005BE7_00F95F,
  0x006012_00F960, 0x007387_00F961, 0x007570_00F962, 0x005317_00F963,
  0x0078FB_00F964, 0x004FBF_00F965, 0x005FA9_00F966, 0x004E0D_00F967,
  0x006CCC_00F968, 0x006578_00F969, 0x007D22_00F96A, 0x0053C3_00F96B,
  0x00585E_00F96C, 0x007701_00F96D, 0x008449_00F96E, 0x008AAA_00F96F,
  0x006BBA_00F970, 0x008FB0_00F971, 0x006C88_00F972, 0x0062FE_00F973,
  0x0082E5_00F974, 0x0063A0_00F975, 0x007565_00F976, 0x004EAE_00F977,
  0x005169_00F978, 0x0051C9_00F979, 0x006881_00F97A, 0x007CE7_00F97B,
  0x00826F_00F97C, 0x008AD2_00F97D, 0x0091CF_00F97E, 0x0052F5_00F97F,
  0x005442_00F980, 0x005973_00F981, 0x005EEC_00F982, 0x0065C5_00F983,
  0x006FFE_00F984, 0x00792A_00F985, 0x0095AD_00F986, 0x009A6A_00F987,
  0x009E97_00F988, 0x009ECE_00F989, 0x00529B_00F98A, 0x0066C6_00F98B,
  0x006B77_00F98C, 0x008F62_00F98D, 0x005E74_00F98E, 0x006190_00F98F,
  0x006200_00F990, 0x00649A_00F991, 0x006F23_00F992, 0x007149_00F993,
  0x007489_00F994, 0x0079CA_00F995, 0x007DF4_00F996, 0x00806F_00F997,
  0x008F26_00F998, 0x0084EE_00F999, 0x009023_00F99A, 0x00934A_00F99B,
  0x005217_00F99C, 0x0052A3_00F99D, 0x0054BD_00F99E, 0x0070C8_00F99F,
  0x0088C2_00F9A0, 0x008AAA_00F9A1, 0x005EC9_00F9A2, 0x005FF5_00F9A3,
  0x00637B_00F9A4, 0x006BAE_00F9A5, 0x007C3E_00F9A6, 0x007375_00F9A7,
  0x004EE4_00F9A8, 0x0056F9_00F9A9, 0x005BE7_00F9AA, 0x005DBA_00F9AB,
  0x00601C_00F9AC, 0x0073B2_00F9AD, 0x007469_00F9AE, 0x007F9A_00F9AF,
  0x008046_00F9B0, 0x009234_00F9B1, 0x0096F6_00F9B2, 0x009748_00F9B3,
  0x009818_00F9B4, 0x004F8B_00F9B5, 0x0079AE_00F9B6, 0x0091B4_00F9B7,
  0x0096B8_00F9B8, 0x0060E1_00F9B9, 0x004E86_00F9BA, 0x0050DA_00F9BB,
  0x005BEE_00F9BC, 0x005C3F_00F9BD, 0x006599_00F9BE, 0x006A02_00F9BF,
  0x0071CE_00F9C0, 0x007642_00F9C1, 0x0084FC_00F9C2, 0x00907C_00F9C3,
  0x009F8D_00F9C4, 0x006688_00F9C5, 0x00962E_00F9C6, 0x005289_00F9C7,
  0x00677B_00F9C8, 0x0067F3_00F9C9, 0x006D41_00F9CA, 0x006E9C_00F9CB,
  0x007409_00F9CC, 0x007559_00F9CD, 0x00786B_00F9CE, 0x007D10_00F9CF,
  0x00985E_00F9D0, 0x00516D_00F9D1, 0x00622E_00F9D2, 0x009678_00F9D3,
  0x00502B_00F9D4, 0x005D19_00F9D5, 0x006DEA_00F9D6, 0x008F2A_00F9D7,
  0x005F8B_00F9D8, 0x006144_00F9D9, 0x006817_00F9DA, 0x007387_00F9DB,
  0x009686_00F9DC, 0x005229_00F9DD, 0x00540F_00F9DE, 0x005C65_00F9DF,
  0x006613_00F9E0, 0x00674E_00F9E1, 0x0068A8_00F9E2, 0x006CE5_00F9E3,
  0x007406_00F9E4, 0x0075E2_00F9E5, 0x007F79_00F9E6, 0x0088CF_00F9E7,
  0x0088E1_00F9E8, 0x0091CC_00F9E9, 0x0096E2_00F9EA, 0x00533F_00F9EB,
  0x006EBA_00F9EC, 0x00541D_00F9ED, 0x0071D0_00F9EE, 0x007498_00F9EF,
  0x0085FA_00F9F0, 0x0096A3_00F9F1, 0x009C57_00F9F2, 0x009E9F_00F9F3,
  0x006797_00F9F4, 0x006DCB_00F9F5, 0x0081E8_00F9F6, 0x007ACB_00F9F7,
  0x007B20_00F9F8, 0x007C92_00F9F9, 0x0072C0_00F9FA, 0x007099_00F9FB,
  0x008B58_00F9FC, 0x004EC0_00F9FD, 0x008336_00F9FE, 0x00523A_00F9FF,
  0x005207_00FA00, 0x005EA6_00FA01, 0x0062D3_00FA02, 0x007CD6_00FA03,
  0x005B85_00FA04, 0x006D1E_00FA05, 0x0066B4_00FA06, 0x008F3B_00FA07,
  0x00884C_00FA08, 0x00964D_00FA09, 0x00898B_00FA0A, 0x005ED3_00FA0B,
  0x005140_00FA0C, 0x0055C0_00FA0D, 0x00585A_00FA10, 0x006674_00FA12,
  0x0051DE_00FA15, 0x00732A_00FA16, 0x0076CA_00FA17, 0x00793C_00FA18,
  0x00795E_00FA19, 0x007965_00FA1A, 0x00798F_00FA1B, 0x009756_00FA1C,
  0x007CBE_00FA1D, 0x007FBD_00FA1E, 0x008612_00FA20, 0x008AF8_00FA22,
  0x009038_00FA25, 0x0090FD_00FA26, 0x0098EF_00FA2A, 0x0098FC_00FA2B,
  0x009928_00FA2C, 0x009DB4_00FA2D, 0x0090DE_00FA2E, 0x0096B7_00FA2F,
  0x004FAE_00FA30, 0x0050E7_00FA31, 0x00514D_00FA32, 0x0052C9_00FA33,
  0x0052E4_00FA34, 0x005351_00FA35, 0x00559D_00FA36, 0x005606_00FA37,
  0x005668_00FA38, 0x005840_00FA39, 0x0058A8_00FA3A, 0x005C64_00FA3B,
  0x005C6E_00FA3C, 0x006094_00FA3D, 0x006168_00FA3E, 0x00618E_00FA3F,
  0x0061F2_00FA40, 0x00654F_00FA41, 0x0065E2_00FA42, 0x006691_00FA43,
  0x006885_00FA44, 0x006D77_00FA45, 0x006E1A_00FA46, 0x006F22_00FA47,
  0x00716E_00FA48, 0x00722B_00FA49, 0x007422_00FA4A, 0x007891_00FA4B,
  0x00793E_00FA4C, 0x007949_00FA4D, 0x007948_00FA4E, 0x007950_00FA4F,
  0x007956_00FA50, 0x00795D_00FA51, 0x00798D_00FA52, 0x00798E_00FA53,
  0x007A40_00FA54, 0x007A81_00FA55, 0x007BC0_00FA56, 0x007DF4_00FA57,
  0x007E09_00FA58, 0x007E41_00FA59, 0x007F72_00FA5A, 0x008005_00FA5B,
  0x0081ED_00FA5C, 0x008279_00FA5D, 0x008279_00FA5E, 0x008457_00FA5F,
  0x008910_00FA60, 0x008996_00FA61, 0x008B01_00FA62, 0x008B39_00FA63,
  0x008CD3_00FA64, 0x008D08_00FA65, 0x008FB6_00FA66, 0x009038_00FA67,
  0x0096E3_00FA68, 0x0097FF_00FA69, 0x00983B_00FA6A, 0x006075_00FA6B,
  0x0242EE_00FA6C, 0x008218_00FA6D, 0x004E26_00FA70, 0x0051B5_00FA71,
  0x005168_00FA72, 0x004F80_00FA73, 0x005145_00FA74, 0x005180_00FA75,
  0x0052C7_00FA76, 0x0052FA_00FA77, 0x00559D_00FA78, 0x005555_00FA79,
  0x005599_00FA7A, 0x0055E2_00FA7B, 0x00585A_00FA7C, 0x0058B3_00FA7D,
  0x005944_00FA7E, 0x005954_00FA7F, 0x005A62_00FA80, 0x005B28_00FA81,
  0x005ED2_00FA82, 0x005ED9_00FA83, 0x005F69_00FA84, 0x005FAD_00FA85,
  0x0060D8_00FA86, 0x00614E_00FA87, 0x006108_00FA88, 0x00618E_00FA89,
  0x006160_00FA8A, 0x0061F2_00FA8B, 0x006234_00FA8C, 0x0063C4_00FA8D,
  0x00641C_00FA8E, 0x006452_00FA8F, 0x006556_00FA90, 0x006674_00FA91,
  0x006717_00FA92, 0x00671B_00FA93, 0x006756_00FA94, 0x006B79_00FA95,
  0x006BBA_00FA96, 0x006D41_00FA97, 0x006EDB_00FA98, 0x006ECB_00FA99,
  0x006F22_00FA9A, 0x00701E_00FA9B, 0x00716E_00FA9C, 0x0077A7_00FA9D,
  0x007235_00FA9E, 0x0072AF_00FA9F, 0x00732A_00FAA0, 0x007471_00FAA1,
  0x007506_00FAA2, 0x00753B_00FAA3, 0x00761D_00FAA4, 0x00761F_00FAA5,
  0x0076CA_00FAA6, 0x0076DB_00FAA7, 0x0076F4_00FAA8, 0x00774A_00FAA9,
  0x007740_00FAAA, 0x0078CC_00FAAB, 0x007AB1_00FAAC, 0x007BC0_00FAAD,
  0x007C7B_00FAAE, 0x007D5B_00FAAF, 0x007DF4_00FAB0, 0x007F3E_00FAB1,
  0x008005_00FAB2, 0x008352_00FAB3, 0x0083EF_00FAB4, 0x008779_00FAB5,
  0x008941_00FAB6, 0x008986_00FAB7, 0x008996_00FAB8, 0x008ABF_00FAB9,
  0x008AF8_00FABA, 0x008ACB_00FABB, 0x008B01_00FABC, 0x008AFE_00FABD,
  0x008AED_00FABE, 0x008B39_00FABF, 0x008B8A_00FAC0, 0x008D08_00FAC1,
  0x008F38_00FAC2, 0x009072_00FAC3, 0x009199_00FAC4, 0x009276_00FAC5,
  0x00967C_00FAC6, 0x0096E3_00FAC7, 0x009756_00FAC8, 0x0097DB_00FAC9,
  0x0097FF_00FACA, 0x00980B_00FACB, 0x00983B_00FACC, 0x009B12_00FACD,
  0x009F9C_00FACE, 0x02284A_00FACF, 0x022844_00FAD0, 0x0233D5_00FAD1,
  0x003B9D_00FAD2, 0x004018_00FAD3, 0x004039_00FAD4, 0x025249_00FAD5,
  0x025CD0_00FAD6, 0x027ED3_00FAD7, 0x009F43_00FAD8, 0x009F8E_00FAD9,
  0x004E3D_02F800, 0x004E38_02F801, 0x004E41_02F802, 0x020122_02F803,
  0x004F60_02F804, 0x004FAE_02F805, 0x004FBB_02F806, 0x005002_02F807,
  0x00507A_02F808, 0x005099_02F809, 0x0050E7_02F80A, 0x0050CF_02F80B,
  0x00349E_02F80C, 0x02063A_02F80D, 0x00514D_02F80E, 0x005154_02F80F,
  0x005164_02F810, 0x005177_02F811, 0x02051C_02F812, 0x0034B9_02F813,
  0x005167_02F814, 0x00518D_02F815, 0x02054B_02F816, 0x005197_02F817,
  0x0051A4_02F818, 0x004ECC_02F819, 0x0051AC_02F81A, 0x0051B5_02F81B,
  0x0291DF_02F81C, 0x0051F5_02F81D, 0x005203_02F81E, 0x0034DF_02F81F,
  0x00523B_02F820, 0x005246_02F821, 0x005272_02F822, 0x005277_02F823,
  0x003515_02F824, 0x0052C7_02F825, 0x0052C9_02F826, 0x0052E4_02F827,
  0x0052FA_02F828, 0x005305_02F829, 0x005306_02F82A, 0x005317_02F82B,
  0x005349_02F82C, 0x005351_02F82D, 0x00535A_02F82E, 0x005373_02F82F,
  0x00537D_02F830, 0x00537F_02F831, 0x00537F_02F832, 0x00537F_02F833,
  0x020A2C_02F834, 0x007070_02F835, 0x0053CA_02F836, 0x0053DF_02F837,
  0x020B63_02F838, 0x0053EB_02F839, 0x0053F1_02F83A, 0x005406_02F83B,
  0x00549E_02F83C, 0x005438_02F83D, 0x005448_02F83E, 0x005468_02F83F,
  0x0054A2_02F840, 0x0054F6_02F841, 0x005510_02F842, 0x005553_02F843,
  0x005563_02F844, 0x005584_02F845, 0x005584_02F846, 0x005599_02F847,
  0x0055AB_02F848, 0x0055B3_02F849, 0x0055C2_02F84A, 0x005716_02F84B,
  0x005606_02F84C, 0x005717_02F84D, 0x005651_02F84E, 0x005674_02F84F,
  0x005207_02F850, 0x0058EE_02F851, 0x0057CE_02F852, 0x0057F4_02F853,
  0x00580D_02F854, 0x00578B_02F855, 0x005832_02F856, 0x005831_02F857,
  0x0058AC_02F858, 0x0214E4_02F859, 0x0058F2_02F85A, 0x0058F7_02F85B,
  0x005906_02F85C, 0x00591A_02F85D, 0x005922_02F85E, 0x005962_02F85F,
  0x0216A8_02F860, 0x0216EA_02F861, 0x0059EC_02F862, 0x005A1B_02F863,
  0x005A27_02F864, 0x0059D8_02F865, 0x005A66_02F866, 0x0036EE_02F867,
  0x0036FC_02F868, 0x005B08_02F869, 0x005B3E_02F86A, 0x005B3E_02F86B,
  0x0219C8_02F86C, 0x005BC3_02F86D, 0x005BD8_02F86E, 0x005BE7_02F86F,
  0x005BF3_02F870, 0x021B18_02F871, 0x005BFF_02F872, 0x005C06_02F873,
  0x005F53_02F874, 0x005C22_02F875, 0x003781_02F876, 0x005C60_02F877,
  0x005C6E_02F878, 0x005CC0_02F879, 0x005C8D_02F87A, 0x021DE4_02F87B,
  0x005D43_02F87C, 0x021DE6_02F87D, 0x005D6E_02F87E, 0x005D6B_02F87F,
  0x005D7C_02F880, 0x005DE1_02F881, 0x005DE2_02F882, 0x00382F_02F883,
  0x005DFD_02F884, 0x005E28_02F885, 0x005E3D_02F886, 0x005E69_02F887,
  0x003862_02F888, 0x022183_02F889, 0x00387C_02F88A, 0x005EB0_02F88B,
  0x005EB3_02F88C, 0x005EB6_02F88D, 0x005ECA_02F88E, 0x02A392_02F88F,
  0x005EFE_02F890, 0x022331_02F891, 0x022331_02F892, 0x008201_02F893,
  0x005F22_02F894, 0x005F22_02F895, 0x0038C7_02F896, 0x0232B8_02F897,
  0x0261DA_02F898, 0x005F62_02F899, 0x005F6B_02F89A, 0x0038E3_02F89B,
  0x005F9A_02F89C, 0x005FCD_02F89D, 0x005FD7_02F89E, 0x005FF9_02F89F,
  0x006081_02F8A0, 0x00393A_02F8A1, 0x00391C_02F8A2, 0x006094_02F8A3,
  0x0226D4_02F8A4, 0x0060C7_02F8A5, 0x006148_02F8A6, 0x00614C_02F8A7,
  0x00614E_02F8A8, 0x00614C_02F8A9, 0x00617A_02F8AA, 0x00618E_02F8AB,
  0x0061B2_02F8AC, 0x0061A4_02F8AD, 0x0061AF_02F8AE, 0x0061DE_02F8AF,
  0x0061F2_02F8B0, 0x0061F6_02F8B1, 0x006210_02F8B2, 0x00621B_02F8B3,
  0x00625D_02F8B4, 0x0062B1_02F8B5, 0x0062D4_02F8B6, 0x006350_02F8B7,
  0x022B0C_02F8B8, 0x00633D_02F8B9, 0x0062FC_02F8BA, 0x006368_02F8BB,
  0x006383_02F8BC, 0x0063E4_02F8BD, 0x022BF1_02F8BE, 0x006422_02F8BF,
  0x0063C5_02F8C0, 0x0063A9_02F8C1, 0x003A2E_02F8C2, 0x006469_02F8C3,
  0x00647E_02F8C4, 0x00649D_02F8C5, 0x006477_02F8C6, 0x003A6C_02F8C7,
  0x00654F_02F8C8, 0x00656C_02F8C9, 0x02300A_02F8CA, 0x0065E3_02F8CB,
  0x0066F8_02F8CC, 0x006649_02F8CD, 0x003B19_02F8CE, 0x006691_02F8CF,
  0x003B08_02F8D0, 0x003AE4_02F8D1, 0x005192_02F8D2, 0x005195_02F8D3,
  0x006700_02F8D4, 0x00669C_02F8D5, 0x0080AD_02F8D6, 0x0043D9_02F8D7,
  0x006717_02F8D8, 0x00671B_02F8D9, 0x006721_02F8DA, 0x00675E_02F8DB,
  0x006753_02F8DC, 0x0233C3_02F8DD, 0x003B49_02F8DE, 0x0067FA_02F8DF,
  0x006785_02F8E0, 0x006852_02F8E1, 0x006885_02F8E2, 0x02346D_02F8E3,
  0x00688E_02F8E4, 0x00681F_02F8E5, 0x006914_02F8E6, 0x003B9D_02F8E7,
  0x006942_02F8E8, 0x0069A3_02F8E9, 0x0069EA_02F8EA, 0x006AA8_02F8EB,
  0x0236A3_02F8EC, 0x006ADB_02F8ED, 0x003C18_02F8EE, 0x006B21_02F8EF,
  0x0238A7_02F8F0, 0x006B54_02F8F1, 0x003C4E_02F8F2, 0x006B72_02F8F3,
  0x006B9F_02F8F4, 0x006BBA_02F8F5, 0x006BBB_02F8F6, 0x023A8D_02F8F7,
  0x021D0B_02F8F8, 0x023AFA_02F8F9, 0x006C4E_02F8FA, 0x023CBC_02F8FB,
  0x006CBF_02F8FC, 0x006CCD_02F8FD, 0x006C67_02F8FE, 0x006D16_02F8FF,
  0x006D3E_02F900, 0x006D77_02F901, 0x006D41_02F902, 0x006D69_02F903,
  0x006D78_02F904, 0x006D85_02F905, 0x023D1E_02F906, 0x006D34_02F907,
  0x006E2F_02F908, 0x006E6E_02F909, 0x003D33_02F90A, 0x006ECB_02F90B,
  0x006EC7_02F90C, 0x023ED1_02F90D, 0x006DF9_02F90E, 0x006F6E_02F90F,
  0x023F5E_02F910, 0x023F8E_02F911, 0x006FC6_02F912, 0x007039_02F913,
  0x00701E_02F914, 0x00701B_02F915, 0x003D96_02F916, 0x00704A_02F917,
  0x00707D_02F918, 0x007077_02F919, 0x0070AD_02F91A, 0x020525_02F91B,
  0x007145_02F91C, 0x024263_02F91D, 0x00719C_02F91E, 0x0243AB_02F91F,
  0x007228_02F920, 0x007235_02F921, 0x007250_02F922, 0x024608_02F923,
  0x007280_02F924, 0x007295_02F925, 0x024735_02F926, 0x024814_02F927,
  0x00737A_02F928, 0x00738B_02F929, 0x003EAC_02F92A, 0x0073A5_02F92B,
  0x003EB8_02F92C, 0x003EB8_02F92D, 0x007447_02F92E, 0x00745C_02F92F,
  0x007471_02F930, 0x007485_02F931, 0x0074CA_02F932, 0x003F1B_02F933,
  0x007524_02F934, 0x024C36_02F935, 0x00753E_02F936, 0x024C92_02F937,
  0x007570_02F938, 0x02219F_02F939, 0x007610_02F93A, 0x024FA1_02F93B,
  0x024FB8_02F93C, 0x025044_02F93D, 0x003FFC_02F93E, 0x004008_02F93F,
  0x0076F4_02F940, 0x0250F3_02F941, 0x0250F2_02F942, 0x025119_02F943,
  0x025133_02F944, 0x00771E_02F945, 0x00771F_02F946, 0x00771F_02F947,
  0x00774A_02F948, 0x004039_02F949, 0x00778B_02F94A, 0x004046_02F94B,
  0x004096_02F94C, 0x02541D_02F94D, 0x00784E_02F94E, 0x00788C_02F94F,
  0x0078CC_02F950, 0x0040E3_02F951, 0x025626_02F952, 0x007956_02F953,
  0x02569A_02F954, 0x0256C5_02F955, 0x00798F_02F956, 0x0079EB_02F957,
  0x00412F_02F958, 0x007A40_02F959, 0x007A4A_02F95A, 0x007A4F_02F95B,
  0x02597C_02F95C, 0x025AA7_02F95D, 0x025AA7_02F95E, 0x007AEE_02F95F,
  0x004202_02F960, 0x025BAB_02F961, 0x007BC6_02F962, 0x007BC9_02F963,
  0x004227_02F964, 0x025C80_02F965, 0x007CD2_02F966, 0x0042A0_02F967,
  0x007CE8_02F968, 0x007CE3_02F969, 0x007D00_02F96A, 0x025F86_02F96B,
  0x007D63_02F96C, 0x004301_02F96D, 0x007DC7_02F96E, 0x007E02_02F96F,
  0x007E45_02F970, 0x004334_02F971, 0x026228_02F972, 0x026247_02F973,
  0x004359_02F974, 0x0262D9_02F975, 0x007F7A_02F976, 0x02633E_02F977,
  0x007F95_02F978, 0x007FFA_02F979, 0x008005_02F97A, 0x0264DA_02F97B,
  0x026523_02F97C, 0x008060_02F97D, 0x0265A8_02F97E, 0x008070_02F97F,
  0x02335F_02F980, 0x0043D5_02F981, 0x0080B2_02F982, 0x008103_02F983,
  0x00440B_02F984, 0x00813E_02F985, 0x005AB5_02F986, 0x0267A7_02F987,
  0x0267B5_02F988, 0x023393_02F989, 0x02339C_02F98A, 0x008201_02F98B,
  0x008204_02F98C, 0x008F9E_02F98D, 0x00446B_02F98E, 0x008291_02F98F,
  0x00828B_02F990, 0x00829D_02F991, 0x0052B3_02F992, 0x0082B1_02F993,
  0x0082B3_02F994, 0x0082BD_02F995, 0x0082E6_02F996, 0x026B3C_02F997,
  0x0082E5_02F998, 0x00831D_02F999, 0x008363_02F99A, 0x0083AD_02F99B,
  0x008323_02F99C, 0x0083BD_02F99D, 0x0083E7_02F99E, 0x008457_02F99F,
  0x008353_02F9A0, 0x0083CA_02F9A1, 0x0083CC_02F9A2, 0x0083DC_02F9A3,
  0x026C36_02F9A4, 0x026D6B_02F9A5, 0x026CD5_02F9A6, 0x00452B_02F9A7,
  0x0084F1_02F9A8, 0x0084F3_02F9A9, 0x008516_02F9AA, 0x0273CA_02F9AB,
  0x008564_02F9AC, 0x026F2C_02F9AD, 0x00455D_02F9AE, 0x004561_02F9AF,
  0x026FB1_02F9B0, 0x0270D2_02F9B1, 0x00456B_02F9B2, 0x008650_02F9B3,
  0x00865C_02F9B4, 0x008667_02F9B5, 0x008669_02F9B6, 0x0086A9_02F9B7,
  0x008688_02F9B8, 0x00870E_02F9B9, 0x0086E2_02F9BA, 0x008779_02F9BB,
  0x008728_02F9BC, 0x00876B_02F9BD, 0x008786_02F9BE, 0x0045D7_02F9BF,
  0x0087E1_02F9C0, 0x008801_02F9C1, 0x0045F9_02F9C2, 0x008860_02F9C3,
  0x008863_02F9C4, 0x027667_02F9C5, 0x0088D7_02F9C6, 0x0088DE_02F9C7,
  0x004635_02F9C8, 0x0088FA_02F9C9, 0x0034BB_02F9CA, 0x0278AE_02F9CB,
  0x027966_02F9CC, 0x0046BE_02F9CD, 0x0046C7_02F9CE, 0x008AA0_02F9CF,
  0x008AED_02F9D0, 0x008B8A_02F9D1, 0x008C55_02F9D2, 0x027CA8_02F9D3,
  0x008CAB_02F9D4, 0x008CC1_02F9D5, 0x008D1B_02F9D6, 0x008D77_02F9D7,
  0x027F2F_02F9D8, 0x020804_02F9D9, 0x008DCB_02F9DA, 0x008DBC_02F9DB,
  0x008DF0_02F9DC, 0x0208DE_02F9DD, 0x008ED4_02F9DE, 0x008F38_02F9DF,
  0x0285D2_02F9E0, 0x0285ED_02F9E1, 0x009094_02F9E2, 0x0090F1_02F9E3,
  0x009111_02F9E4, 0x02872E_02F9E5, 0x00911B_02F9E6, 0x009238_02F9E7,
  0x0092D7_02F9E8, 0x0092D8_02F9E9, 0x00927C_02F9EA, 0x0093F9_02F9EB,
  0x009415_02F9EC, 0x028BFA_02F9ED, 0x00958B_02F9EE, 0x004995_02F9EF,
  0x0095B7_02F9F0, 0x028D77_02F9F1, 0x0049E6_02F9F2, 0x0096C3_02F9F3,
  0x005DB2_02F9F4, 0x009723_02F9F5, 0x029145_02F9F6, 0x02921A_02F9F7,
  0x004A6E_02F9F8, 0x004A76_02F9F9, 0x0097E0_02F9FA, 0x02940A_02F9FB,
  0x004AB2_02F9FC, 0x029496_02F9FD, 0x00980B_02F9FE, 0x00980B_02F9FF,
  0x009829_02FA00, 0x0295B6_02FA01, 0x0098E2_02FA02, 0x004B33_02FA03,
  0x009929_02FA04, 0x0099A7_02FA05, 0x0099C2_02FA06, 0x0099FE_02FA07,
  0x004BCE_02FA08, 0x029B30_02FA09, 0x009B12_02FA0A, 0x009C40_02FA0B,
  0x009CFD_02FA0C, 0x004CCE_02FA0D, 0x004CED_02FA0E, 0x009D67_02FA0F,
  0x02A0CE_02FA10, 0x004CF8_02FA11, 0x02A105_02FA12, 0x02A20E_02FA13,
  0x02A291_02FA14, 0x009EBB_02FA15, 0x004D56_02FA16, 0x009EF9_02FA17,
  0x009EFE_02FA18, 0x009F05_02FA19, 0x009F0F_02FA1A, 0x009F16_02FA1B,
  0x009F3B_02FA1C, 0x02A600_02FA1D]

/-- All other characters, each with its decomposition. -/
def letters : List Nat := [
  0x000300_000041_0000C0, 0x000301_000041_0000C1, 0x000302_000041_0000C2,
  0x000303_000041_0000C3, 0x000308_000041_0000C4, 0x00030A_000041_0000C5,
  0x000327_000043_0000C7, 0x000300_000045_0000C8, 0x000301_000045_0000C9,
  0x000302_000045_0000CA, 0x000308_000045_0000CB, 0x000300_000049_0000CC,
  0x000301_000049_0000CD, 0x000302_000049_0000CE, 0x000308_000049_0000CF,
  0x000303_00004E_0000D1, 0x000300_00004F_0000D2, 0x000301_00004F_0000D3,
  0x000302_00004F_0000D4, 0x000303_00004F_0000D5, 0x000308_00004F_0000D6,
  0x000300_000055_0000D9, 0x000301_000055_0000DA, 0x000302_000055_0000DB,
  0x000308_000055_0000DC, 0x000301_000059_0000DD, 0x000300_000061_0000E0,
  0x000301_000061_0000E1, 0x000302_000061_0000E2, 0x000303_000061_0000E3,
  0x000308_000061_0000E4, 0x00030A_000061_0000E5, 0x000327_000063_0000E7,
  0x000300_000065_0000E8, 0x000301_000065_0000E9, 0x000302_000065_0000EA,
  0x000308_000065_0000EB, 0x000300_000069_0000EC, 0x000301_000069_0000ED,
  0x000302_000069_0000EE, 0x000308_000069_0000EF, 0x000303_00006E_0000F1,
  0x000300_00006F_0000F2, 0x000301_00006F_0000F3, 0x000302_00006F_0000F4,
  0x000303_00006F_0000F5, 0x000308_00006F_0000F6, 0x000300_000075_0000F9,
  0x000301_000075_0000FA, 0x000302_000075_0000FB, 0x000308_000075_0000FC,
  0x000301_000079_0000FD, 0x000308_000079_0000FF, 0x000304_000041_000100,
  0x000304_000061_000101, 0x000306_000041_000102, 0x000306_000061_000103,
  0x000328_000041_000104, 0x000328_000061_000105, 0x000301_000043_000106,
  0x000301_000063_000107, 0x000302_000043_000108, 0x000302_000063_000109,
  0x000307_000043_00010A, 0x000307_000063_00010B, 0x00030C_000043_00010C,
  0x00030C_000063_00010D, 0x00030C_000044_00010E, 0x00030C_000064_00010F,
  0x000304_000045_000112, 0x000304_000065_000113, 0x000306_000045_000114,
  0x000306_000065_000115, 0x000307_000045_000116, 0x000307_000065_000117,
  0x000328_000045_000118, 0x000328_000065_000119, 0x00030C_000045_00011A,
  0x00030C_000065_00011B, 0x000302_000047_00011C, 0x000302_000067_00011D,
  0x000306_000047_00011E, 0x000306_000067_00011F, 0x000307_000047_000120,
  0x000307_000067_000121, 0x000327_000047_000122, 0x000327_000067_000123,
  0x000302_000048_000124, 0x000302_000068_000125, 0x000303_000049_000128,
  0x000303_000069_000129, 0x000304_000049_00012A, 0x000304_000069_00012B,
  0x000306_000049_00012C, 0x000306_000069_00012D, 0x000328_000049_00012E,
  0x000328_000069_00012F, 0x000307_000049_000130, 0x000302_00004A_000134,
  0x000302_00006A_000135, 0x000327_00004B_000136, 0x000327_00006B_000137,
  0x000301_00004C_000139, 0x000301_00006C_00013A, 0x000327_00004C_00013B,
  0x000327_00006C_00013C, 0x00030C_00004C_00013D, 0x00030C_00006C_00013E,
  0x000301_00004E_000143, 0x000301_00006E_000144, 0x000327_00004E_000145,
  0x000327_00006E_000146, 0x00030C_00004E_000147, 0x00030C_00006E_000148,
  0x000304_00004F_00014C, 0x000304_00006F_00014D, 0x000306_00004F_00014E,
  0x000306_00006F_00014F, 0x00030B_00004F_000150, 0x00030B_00006F_000151,
  0x000301_000052_000154, 0x000301_000072_000155, 0x000327_000052_000156,
  0x000327_000072_000157, 0x00030C_000052_000158, 0x00030C_000072_000159,
  0x000301_000053_00015A, 0x000301_000073_00015B, 0x000302_000053_00015C,
  0x000302_000073_00015D, 0x000327_000053_00015E, 0x000327_000073_00015F,
  0x00030C_000053_000160, 0x00030C_000073_000161, 0x000327_000054_000162,
  0x000327_000074_000163, 0x00030C_000054_000164, 0x00030C_000074_000165,
  0x000303_000055_000168, 0x000303_000075_000169, 0x000304_000055_00016A,
  0x000304_000075_00016B, 0x000306_000055_00016C, 0x000306_000075_00016D,
  0x00030A_000055_00016E, 0x00030A_000075_00016F, 0x00030B_000055_000170,
  0x00030B_000075_000171, 0x000328_000055_000172, 0x000328_000075_000173,
  0x000302_000057_000174, 0x000302_000077_000175, 0x000302_000059_000176,
  0x000302_000079_000177, 0x000308_000059_000178, 0x000301_00005A_000179,
  0x000301_00007A_00017A, 0x000307_00005A_00017B, 0x000307_00007A_00017C,
  0x00030C_00005A_00017D, 0x00030C_00007A_00017E, 0x00031B_00004F_0001A0,
  0x00031B_00006F_0001A1, 0x00031B_000055_0001AF, 0x00031B_000075_0001B0,
  0x00030C_000041_0001CD, 0x00030C_000061_0001CE, 0x00030C_000049_0001CF,
  0x00030C_000069_0001D0, 0x00030C_00004F_0001D1, 0x00030C_00006F_0001D2,
  0x00030C_000055_0001D3, 0x00030C_000075_0001D4, 0x000304_000308_000055_0001D5,
  0x000304_000308_000075_0001D6, 0x000301_000308_000055_0001D7, 0x000301_000308_000075_0001D8,
  0x00030C_000308_000055_0001D9, 0x00030C_000308_000075_0001DA, 0x000300_000308_000055_0001DB,
  0x000300_000308_000075_0001DC, 0x000304_000308_000041_0001DE, 0x000304_000308_000061_0001DF,
  0x000304_000307_000041_0001E0, 0x000304_000307_000061_0001E1, 0x000304_0000C6_0001E2,
  0x000304_0000E6_0001E3, 0x00030C_000047_0001E6, 0x00030C_000067_0001E7,
  0x00030C_00004B_0001E8, 0x00030C_00006B_0001E9, 0x000328_00004F_0001EA,
  0x000328_00006F_0001EB, 0x000304_000328_00004F_0001EC, 0x000304_000328_00006F_0001ED,
  0x00030C_0001B7_0001EE, 0x00030C_000292_0001EF, 0x00030C_00006A_0001F0,
  0x000301_000047_0001F4, 0x000301_000067_0001F5, 0x000300_00004E_0001F8,
  0x000300_00006E_0001F9, 0x000301_00030A_000041_0001FA, 0x000301_00030A_000061_0001FB,
  0x000301_0000C6_0001FC, 0x000301_0000E6_0001FD, 0x000301_0000D8_0001FE,
  0x000301_0000F8_0001FF, 0x00030F_000041_000200, 0x00030F_000061_000201,
  0x000311_000041_000202, 0x000311_000061_000203, 0x00030F_000045_000204,
  0x00030F_000065_000205, 0x000311_000045_000206, 0x000311_000065_000207,
  0x00030F_000049_000208, 0x00030F_000069_000209, 0x000311_000049_00020A,
  0x000311_000069_00020B, 0x00030F_00004F_00020C, 0x00030F_00006F_00020D,
  0x000311_00004F_00020E, 0x000311_00006F_00020F, 0x00030F_000052_000210,
  0x00030F_000072_000211, 0x000311_000052_000212, 0x000311_000072_000213,
  0x00030F_000055_000214, 0x00030F_000075_000215, 0x000311_000055_000216,
  0x000311_000075_000217, 0x000326_000053_000218, 0x000326_000073_000219,
  0x000326_000054_00021A, 0x000326_000074_00021B, 0x00030C_000048_00021E,
  0x00030C_000068_00021F, 0x000307_000041_000226, 0x000307_000061_000227,
  0x000327_000045_000228, 0x000327_000065_000229, 0x000304_000308_00004F_00022A,
  0x000304_000308_00006F_00022B, 0x000304_000303_00004F_00022C, 0x000304_000303_00006F_00022D,
  0x000307_00004F_00022E, 0x000307_00006F_00022F, 0x000304_000307_00004F_000230,
  0x000304_000307_00006F_000231, 0x000304_000059_000232, 0x000304_000079_000233,
  0x000300_000340, 0x000301_000341, 0x000313_000343,
  0x000301_000308_000344, 0x0002B9_000374, 0x00003B_00037E,
  0x000301_0000A8_000385, 0x000301_000391_000386, 0x0000B7_000387,
  0x000301_000395_000388, 0x000301_000397_000389, 0x000301_000399_00038A,
  0x000301_00039F_00038C, 0x000301_0003A5_00038E, 0x000301_0003A9_00038F,
  0x000301_000308_0003B9_000390, 0x000308_000399_0003AA, 0x000308_0003A5_0003AB,
  0x000301_0003B1_0003AC, 0x000301_0003B5_0003AD, 0x000301_0003B7_0003AE,
  0x000301_0003B9_0003AF, 0x000301_000308_0003C5_0003B0, 0x000308_0003B9_0003CA,
  0x000308_0003C5_0003CB, 0x000301_0003BF_0003CC, 0x000301_0003C5_0003CD,
  0x000301_0003C9_0003CE, 0x000301_0003D2_0003D3, 0x000308_0003D2_0003D4,
  0x000300_000415_000400, 0x000308_000415_000401, 0x000301_000413_000403,
  0x000308_000406_000407, 0x000301_00041A_00040C, 0x000300_000418_00040D,
  0x000306_000423_00040E, 0x000306_000418_000419, 0x000306_000438_000439,
  0x000300_000435_000450, 0x000308_000435_000451, 0x000301_000433_000453,
  0x000308_000456_000457, 0x000301_00043A_00045C, 0x000300_000438_00045D,
  0x000306_000443_00045E, 0x00030F_000474_000476, 0x00030F_000475_000477,
  0x000306_000416_0004C1, 0x000306_000436_0004C2, 0x000306_000410_0004D0,
  0x000306_000430_0004D1, 0x000308_000410_0004D2, 0x000308_000430_0004D3,
  0x000306_000415_0004D6, 0x000306_000435_0004D7, 0x000308_0004D8_0004DA,
  0x000308_0004D9_0004DB, 0x000308_000416_0004DC, 0x000308_000436_0004DD,
  0x000308_000417_0004DE, 0x000308_000437_0004DF, 0x000304_000418_0004E2,
  0x000304_000438_0004E3, 0x000308_000418_0004E4, 0x000308_000438_0004E5,
  0x000308_00041E_0004E6, 0x000308_00043E_0004E7, 0x000308_0004E8_0004EA,
  0x000308_0004E9_0004EB, 0x000308_00042D_0004EC, 0x000308_00044D_0004ED,
  0x000304_000423_0004EE, 0x000304_000443_0004EF, 0x000308_000423_0004F0,
  0x000308_000443_0004F1, 0x00030B_000423_0004F2, 0x00030B_000443_0004F3,
  0x000308_000427_0004F4, 0x000308_000447_0004F5, 0x000308_00042B_0004F8,
  0x000308_00044B_0004F9, 0x000653_000627_000622, 0x000654_000627_000623,
  0x000654_000648_000624, 0x000655_000627_000625, 0x000654_00064A_000626,
  0x000654_0006D5_0006C0, 0x000654_0006C1_0006C2, 0x000654_0006D2_0006D3,
  0x00093C_000928_000929, 0x00093C_000930_000931, 0x00093C_000933_000934,
  0x00093C_000915_000958, 0x00093C_000916_000959, 0x00093C_000917_00095A,
  0x00093C_00091C_00095B, 0x00093C_000921_00095C, 0x00093C_000922_00095D,
  0x00093C_00092B_00095E, 0x00093C_00092F_00095F, 0x0009BE_0009C7_0009CB,
  0x0009D7_0009C7_0009CC, 0x0009BC_0009A1_0009DC, 0x0009BC_0009A2_0009DD,
  0x0009BC_0009AF_0009DF, 0x000A3C_000A32_000A33, 0x000A3C_000A38_000A36,
  0x000A3C_000A16_000A59, 0x000A3C_000A17_000A5A, 0x000A3C_000A1C_000A5B,
  0x000A3C_000A2B_000A5E, 0x000B56_000B47_000B48, 0x000B3E_000B47_000B4B,
  0x000B57_000B47_000B4C, 0x000B3C_000B21_000B5C, 0x000B3C_000B22_000B5D,
  0x000BD7_000B92_000B94, 0x000BBE_000BC6_000BCA, 0x000BBE_000BC7_000BCB,
  0x000BD7_000BC6_000BCC, 0x000C56_000C46_000C48, 0x000CD5_000CBF_000CC0,
  0x000CD5_000CC6_000CC7, 0x000CD6_000CC6_000CC8, 0x000CC2_000CC6_000CCA,
  0x000CD5_000CC2_000CC6_000CCB, 0x000D3E_000D46_000D4A, 0x000D3E_000D47_000D4B,
  0x000D57_000D46_000D4C, 0x000DCA_000DD9_000DDA, 0x000DCF_000DD9_000DDC,
  0x000DCA_000DCF_000DD9_000DDD, 0x000DDF_000DD9_000DDE, 0x000FB7_000F42_000F43,
  0x000FB7_000F4C_000F4D, 0x000FB7_000F51_000F52, 0x000FB7_000F56_000F57,
  0x000FB7_000F5B_000F5C, 0x000FB5_000F40_000F69, 0x000F72_000F71_000F73,
  0x000F74_000F71_000F75, 0x000F80_000FB2_000F76, 0x000F80_000FB3_000F78,
  0x000F80_000F71_000F81, 0x000FB7_000F92_000F93, 0x000FB7_000F9C_000F9D,
  0x000FB7_000FA1_000FA2, 0x000FB7_000FA6_000FA7, 0x000FB7_000FAB_000FAC,
  0x000FB5_000F90_000FB9, 0x00102E_001025_001026, 0x001B35_001B05_001B06,
  0x001B35_001B07_001B08, 0x001B35_001B09_001B0A, 0x001B35_001B0B_001B0C,
  0x001B35_001B0D_001B0E, 0x001B35_001B11_001B12, 0x001B35_001B3A_001B3B,
  0x001B35_001B3C_001B3D, 0x001B35_001B3E_001B40, 0x001B35_001B3F_001B41,
  0x001B35_001B42_001B43, 0x000325_000041_001E00, 0x000325_000061_001E01,
  0x000307_000042_001E02, 0x000307_000062_001E03, 0x000323_000042_001E04,
  0x000323_000062_001E05, 0x000331_000042_001E06, 0x000331_000062_001E07,
  0x000301_000327_000043_001E08, 0x000301_000327_000063_001E09, 0x000307_000044_001E0A,
  0x000307_000064_001E0B, 0x000323_000044_001E0C, 0x000323_000064_001E0D,
  0x000331_000044_001E0E, 0x000331_000064_001E0F, 0x000327_000044_001E10,
  0x000327_000064_001E11, 0x00032D_000044_001E12, 0x00032D_000064_001E13,
  0x000300_000304_000045_001E14, 0x000300_000304_000065_001E15, 0x000301_000304_000045_001E16,
  0x000301_000304_000065_001E17, 0x00032D_000045_001E18, 0x00032D_000065_001E19,
  0x000330_000045_001E1A, 0x000330_000065_001E1B, 0x000306_000327_000045_001E1C,
  0x000306_000327_000065_001E1D, 0x000307_000046_001E1E, 0x000307_000066_001E1F,
  0x000304_000047_001E20, 0x000304_000067_001E21, 0x000307_000048_001E22,
  0x000307_000068_001E23, 0x000323_000048_001E24, 0x000323_000068_001E25,
  0x000308_000048_001E26, 0x000308_000068_001E27, 0x000327_000048_001E28,
  0x000327_000068_001E29, 0x00032E_000048_001E2A, 0x00032E_000068_001E2B,
  0x000330_000049_001E2C, 0x000330_000069_001E2D, 0x000301_000308_000049_001E2E,
  0x000301_000308_000069_001E2F, 0x000301_00004B_001E30, 0x000301_00006B_001E31,
  0x000323_00004B_001E32, 0x000323_00006B_001E33, 0x000331_00004B_001E34,
  0x000331_00006B_001E35, 0x000323_00004C_001E36, 0x000323_00006C_001E37,
  0x000304_000323_00004C_001E38, 0x000304_000323_00006C_001E39, 0x000331_00004C_001E3A,
  0x000331_00006C_001E3B, 0x00032D_00004C_001E3C, 0x00032D_00006C_001E3D,
  0x000301_00004D_001E3E, 0x000301_00006D_001E3F, 0x000307_00004D_001E40,
  0x000307_00006D_001E41, 0x000323_00004D_001E42, 0x000323_00006D_001E43,
  0x000307_00004E_001E44, 0x000307_00006E_001E45, 0x000323_00004E_001E46,
  0x000323_00006E_001E47, 0x000331_00004E_001E48, 0x000331_00006E_001E49,
  0x00032D_00004E_001E4A, 0x00032D_00006E_001E4B, 0x000301_000303_00004F_001E4C,
  0x000301_000303_00006F_001E4D, 0x000308_000303_00004F_001E4E, 0x000308_000303_00006F_001E4F,
  0x000300_000304_00004F_001E50, 0x000300_000304_00006F_001E51, 0x000301_000304_00004F_001E52,
  0x000301_000304_00006F_001E53, 0x000301_000050_001E54, 0x000301_000070_001E55,
  0x000307_000050_001E56, 0x000307_000070_001E57, 0x000307_000052_001E58,
  0x000307_000072_001E59, 0x000323_000052_001E5A, 0x000323_000072_001E5B,
  0x000304_000323_000052_001E5C, 0x000304_000323_000072_001E5D, 0x000331_000052_001E5E,
  0x000331_000072_001E5F, 0x000307_000053_001E60, 0x000307_000073_001E61,
  0x000323_000053_001E62, 0x000323_000073_001E63, 0x000307_000301_000053_001E64,
  0x000307_000301_000073_001E65, 0x000307_00030C_000053_001E66, 0x000307_00030C_000073_001E67,
  0x000307_000323_000053_001E68, 0x000307_000323_000073_001E69, 0x000307_000054_001E6A,
  0x000307_000074_001E6B, 0x000323_000054_001E6C, 0x000323_000074_001E6D,
  0x000331_000054_001E6E, 0x000331_000074_001E6F, 0x00032D_000054_001E70,
  0x00032D_000074_001E71, 0x000324_000055_001E72, 0x000324_000075_001E73,
  0x000330_000055_001E74, 0x000330_000075_001E75, 0x00032D_000055_001E76,
  0x00032D_000075_001E77, 0x000301_000303_000055_001E78, 0x000301_000303_000075_001E79,
  0x000308_000304_000055_001E7A, 0x000308_000304_000075_001E7B, 0x000303_000056_001E7C,
  0x000303_000076_001E7D, 0x000323_000056_001E7E, 0x000323_000076_001E7F,
  0x000300_000057_001E80, 0x000300_000077_001E81, 0x000301_000057_001E82,
  0x000301_000077_001E83, 0x000308_000057_001E84, 0x000308_000077_001E85,
  0x000307_000057_001E86, 0x000307_000077_001E87, 0x000323_000057_001E88,
  0x000323_000077_001E89, 0x000307_000058_001E8A, 0x000307_000078_001E8B,
  0x000308_000058_001E8C, 0x000308_000078_001E8D, 0x000307_000059_001E8E,
  0x000307_000079_001E8F, 0x000302_00005A_001E90, 0x000302_00007A_001E91,
  0x000323_00005A_001E92, 0x000323_00007A_001E93, 0x000331_00005A_001E94,
  0x000331_00007A_001E95, 0x000331_000068_001E96, 0x000308_000074_001E97,
  0x00030A_000077_001E98, 0x00030A_000079_001E99, 0x000307_00017F_001E9B,
  0x000323_000041_001EA0, 0x000323_000061_001EA1, 0x000309_000041_001EA2,
  0x000309_000061_001EA3, 0x000301_000302_000041_001EA4, 0x000301_000302_000061_001EA5,
  0x000300_000302_000041_001EA6, 0x000300_000302_000061_001EA7, 0x000309_000302_000041_001EA8,
  0x000309_000302_000061_001EA9, 0x000303_000302_000041_001EAA, 0x000303_000302_000061_001EAB,
  0x000302_000323_000041_001EAC, 0x000302_000323_000061_001EAD, 0x000301_000306_000041_001EAE,
  0x000301_000306_000061_001EAF, 0x000300_000306_000041_001EB0, 0x000300_000306_000061_001EB1,
  0x000309_000306_000041_001EB2, 0x000309_000306_000061_001EB3, 0x000303_000306_000041_001EB4,
  0x000303_000306_000061_001EB5, 0x000306_000323_000041_001EB6, 0x000306_000323_000061_001EB7,
  0x000323_000045_001EB8, 0x000323_000065_001EB9, 0x000309_000045_001EBA,
  0x000309_000065_001EBB, 0x000303_000045_001EBC, 0x000303_000065_001EBD,
  0x000301_000302_000045_001EBE, 0x000301_000302_000065_001EBF, 0x000300_000302_000045_001EC0,
  0x000300_000302_000065_001EC1, 0x000309_000302_000045_001EC2, 0x000309_000302_000065_001EC3,
  0x000303_000302_000045_001EC4, 0x000303_000302_000065_001EC5, 0x000302_000323_000045_001EC6,
  0x000302_000323_000065_001EC7, 0x000309_000049_001EC8, 0x000309_000069_001EC9,
  0x000323_000049_001ECA, 0x000323_000069_001ECB, 0x000323_00004F_001ECC,
  0x000323_00006F_001ECD, 0x000309_00004F_001ECE, 0x000309_00006F_001ECF,
  0x000301_000302_00004F_001ED0, 0x000301_000302_00006F_001ED1, 0x000300_000302_00004F_001ED2,
  0x000300_000302_00006F_001ED3, 0x000309_000302_00004F_001ED4, 0x000309_000302_00006F_001ED5,
  0x000303_000302_00004F_001ED6, 0x000303_000302_00006F_001ED7, 0x000302_000323_00004F_001ED8,
  0x000302_000323_00006F_001ED9, 0x000301_00031B_00004F_001EDA, 0x000301_00031B_00006F_001EDB,
  0x000300_00031B_00004F_001EDC, 0x000300_00031B_00006F_001EDD, 0x000309_00031B_00004F_001EDE,
  0x000309_00031B_00006F_001EDF, 0x000303_00031B_00004F_001EE0, 0x000303_00031B_00006F_001EE1,
  0x000323_00031B_00004F_001EE2, 0x000323_00031B_00006F_001EE3, 0x000323_000055_001EE4,
  0x000323_000075_001EE5, 0x000309_000055_001EE6, 0x000309_000075_001EE7,
  0x000301_00031B_000055_001EE8, 0x000301_00031B_000075_001EE9, 0x000300_00031B_000055_001EEA,
  0x000300_00031B_000075_001EEB, 0x000309_00031B_000055_001EEC, 0x000309_00031B_000075_001EED,
  0x000303_00031B_000055_001EEE, 0x000303_00031B_000075_001EEF, 0x000323_00031B_000055_001EF0,
  0x000323_00031B_000075_001EF1, 0x000300_000059_001EF2, 0x000300_000079_001EF3,
  0x000323_000059_001EF4, 0x000323_000079_001EF5, 0x000309_000059_001EF6,
  0x000309_000079_001EF7, 0x000303_000059_001EF8, 0x000303_000079_001EF9,
  0x000313_0003B1_001F00, 0x000314_0003B1_001F01, 0x000300_000313_0003B1_001F02,
  0x000300_000314_0003B1_001F03, 0x000301_000313_0003B1_001F04, 0x000301_000314_0003B1_001F05,
  0x000342_000313_0003B1_001F06, 0x000342_000314_0003B1_001F07, 0x000313_000391_001F08,
  0x000314_000391_001F09, 0x000300_000313_000391_001F0A, 0x000300_000314_000391_001F0B,
  0x000301_000313_000391_001F0C, 0x000301_000314_000391_001F0D, 0x000342_000313_000391_001F0E,
  0x000342_000314_000391_001F0F, 0x000313_0003B5_001F10, 0x000314_0003B5_001F11,
  0x000300_000313_0003B5_001F12, 0x000300_000314_0003B5_001F13, 0x000301_000313_0003B5_001F14,
  0x000301_000314_0003B5_001F15, 0x000313_000395_001F18, 0x000314_000395_001F19,
  0x000300_000313_000395_001F1A, 0x000300_000314_000395_001F1B, 0x000301_000313_000395_001F1C,
  0x000301_000314_000395_001F1D, 0x000313_0003B7_001F20, 0x000314_0003B7_001F21,
  0x000300_000313_0003B7_001F22, 0x000300_000314_0003B7_001F23, 0x000301_000313_0003B7_001F24,
  0x000301_000314_0003B7_001F25, 0x000342_000313_0003B7_001F26, 0x000342_000314_0003B7_001F27,
  0x000313_000397_001F28, 0x000314_000397_001F29, 0x000300_000313_000397_001F2A,
  0x000300_000314_000397_001F2B, 0x000301_000313_000397_001F2C, 0x000301_000314_000397_001F2D,
  0x000342_000313_000397_001F2E, 0x000342_000314_000397_001F2F, 0x000313_0003B9_001F30,
  0x000314_0003B9_001F31, 0x000300_000313_0003B9_001F32, 0x000300_000314_0003B9_001F33,
  0x000301_000313_0003B9_001F34, 0x000301_000314_0003B9_001F35, 0x000342_000313_0003B9_001F36,
  0x000342_000314_0003B9_001F37, 0x000313_000399_001F38, 0x000314_000399_001F39,
  0x000300_000313_000399_001F3A, 0x000300_000314_000399_001F3B, 0x000301_000313_000399_001F3C,
  0x000301_000314_000399_001F3D, 0x000342_000313_000399_001F3E, 0x000342_000314_000399_001F3F,
  0x000313_0003BF_001F40, 0x000314_0003BF_001F41, 0x000300_000313_0003BF_001F42,
  0x000300_000314_0003BF_001F43, 0x000301_000313_0003BF_001F44, 0x000301_000314_0003BF_001F45,
  0x000313_00039F_001F48, 0x000314_00039F_001F49, 0x000300_000313_00039F_001F4A,
  0x000300_000314_00039F_001F4B, 0x000301_000313_00039F_001F4C, 0x000301_000314_00039F_001F4D,
  0x000313_0003C5_001F50, 0x000314_0003C5_001F51, 0x000300_000313_0003C5_001F52,
  0x000300_000314_0003C5_001F53, 0x000301_000313_0003C5_001F54, 0x000301_000314_0003C5_001F55,
  0x000342_000313_0003C5_001F56, 0x000342_000314_0003C5_001F57, 0x000314_0003A5_001F59,
  0x000300_000314_0003A5_001F5B, 0x000301_000314_0003A5_001F5D, 0x000342_000314_0003A5_001F5F,
  0x000313_0003C9_001F60, 0x000314_0003C9_001F61, 0x000300_000313_0003C9_001F62,
  0x000300_000314_0003C9_001F63, 0x000301_000313_0003C9_001F64, 0x000301_000314_0003C9_001F65,
  0x000342_000313_0003C9_001F66, 0x000342_000314_0003C9_001F67, 0x000313_0003A9_001F68,
  0x000314_0003A9_001F69, 0x000300_000313_0003A9_001F6A, 0x000300_000314_0003A9_001F6B,
  0x000301_000313_0003A9_001F6C, 0x000301_000314_0003A9_001F6D, 0x000342_000313_0003A9_001F6E,
  0x000342_000314_0003A9_001F6F, 0x000300_0003B1_001F70, 0x000301_0003B1_001F71,
  0x000300_0003B5_001F72, 0x000301_0003B5_001F73, 0x000300_0003B7_001F74,
  0x000301_0003B7_001F75, 0x000300_0003B9_001F76, 0x000301_0003B9_001F77,
  0x000300_0003BF_001F78, 0x000301_0003BF_001F79, 0x000300_0003C5_001F7A,
  0x000301_0003C5_001F7B, 0x000300_0003C9_001F7C, 0x000301_0003C9_001F7D,
  0x000345_000313_0003B1_001F80, 0x000345_000314_0003B1_001F81,
  0x000345_000300_000313_0003B1_001F82,
  0x000345_000300_000314_0003B1_001F83, 0x000345_000301_000313_0003B1_001F84,
  0x000345_000301_000314_0003B1_001F85,
  0x000345_000342_000313_0003B1_001F86, 0x000345_000342_000314_0003B1_001F87,
  0x000345_000313_000391_001F88,
  0x000345_000314_000391_001F89, 0x000345_000300_000313_000391_001F8A,
  0x000345_000300_000314_000391_001F8B,
  0x000345_000301_000313_000391_001F8C, 0x000345_000301_000314_000391_001F8D,
  0x000345_000342_000313_000391_001F8E,
  0x000345_000342_000314_000391_001F8F, 0x000345_000313_0003B7_001F90,
  0x000345_000314_0003B7_001F91,
  0x000345_000300_000313_0003B7_001F92, 0x000345_000300_000314_0003B7_001F93,
  0x000345_000301_000313_0003B7_001F94,
  0x000345_000301_000314_0003B7_001F95, 0x000345_000342_000313_0003B7_001F96,
  0x000345_000342_000314_0003B7_001F97,
  0x000345_000313_000397_001F98, 0x000345_000314_000397_001F99,
  0x000345_000300_000313_000397_001F9A,
  0x000345_000300_000314_000397_001F9B, 0x000345_000301_000313_000397_001F9C,
  0x000345_000301_000314_000397_001F9D,
  0x000345_000342_000313_000397_001F9E, 0x000345_000342_000314_000397_001F9F,
  0x000345_000313_0003C9_001FA0,
  0x000345_000314_0003C9_001FA1, 0x000345_000300_000313_0003C9_001FA2,
  0x000345_000300_000314_0003C9_001FA3,
  0x000345_000301_000313_0003C9_001FA4, 0x000345_000301_000314_0003C9_001FA5,
  0x000345_000342_000313_0003C9_001FA6,
  0x000345_000342_000314_0003C9_001FA7, 0x000345_000313_0003A9_001FA8,
  0x000345_000314_0003A9_001FA9,
  0x000345_000300_000313_0003A9_001FAA, 0x000345_000300_000314_0003A9_001FAB,
  0x000345_000301_000313_0003A9_001FAC,
  0x000345_000301_000314_0003A9_001FAD, 0x000345_000342_000313_0003A9_001FAE,
  0x000345_000342_000314_0003A9_001FAF,
  0x000306_0003B1_001FB0, 0x000304_0003B1_001FB1, 0x000345_000300_0003B1_001FB2,
  0x000345_0003B1_001FB3, 0x000345_000301_0003B1_001FB4, 0x000342_0003B1_001FB6,
  0x000345_000342_0003B1_001FB7, 0x000306_000391_001FB8, 0x000304_000391_001FB9,
  0x000300_000391_001FBA, 0x000301_000391_001FBB, 0x000345_000391_001FBC,
  0x0003B9_001FBE, 0x000342_0000A8_001FC1, 0x000345_000300_0003B7_001FC2,
  0x000345_0003B7_001FC3, 0x000345_000301_0003B7_001FC4, 0x000342_0003B7_001FC6,
  0x000345_000342_0003B7_001FC7, 0x000300_000395_001FC8, 0x000301_000395_001FC9,
  0x000300_000397_001FCA, 0x000301_000397_001FCB, 0x000345_000397_001FCC,
  0x000300_001FBF_001FCD, 0x000301_001FBF_001FCE, 0x000342_001FBF_001FCF,
  0x000306_0003B9_001FD0, 0x000304_0003B9_001FD1, 0x000300_000308_0003B9_001FD2,
  0x000301_000308_0003B9_001FD3, 0x000342_0003B9_001FD6, 0x000342_000308_0003B9_001FD7,
  0x000306_000399_001FD8, 0x000304_000399_001FD9, 0x000300_000399_001FDA,
  0x000301_000399_001FDB, 0x000300_001FFE_001FDD, 0x000301_001FFE_001FDE,
  0x000342_001FFE_001FDF, 0x000306_0003C5_001FE0, 0x000304_0003C5_001FE1,
  0x000300_000308_0003C5_001FE2, 0x000301_000308_0003C5_001FE3, 0x000313_0003C1_001FE4,
  0x000314_0003C1_001FE5, 0x000342_0003C5_001FE6, 0x000342_000308_0003C5_001FE7,
  0x000306_0003A5_001FE8, 0x000304_0003A5_001FE9, 0x000300_0003A5_001FEA,
  0x000301_0003A5_001FEB, 0x000314_0003A1_001FEC, 0x000300_0000A8_001FED,
  0x000301_0000A8_001FEE, 0x000060_001FEF, 0x000345_000300_0003C9_001FF2,
  0x000345_0003C9_001FF3, 0x000345_000301_0003C9_001FF4, 0x000342_0003C9_001FF6,
  0x000345_000342_0003C9_001FF7, 0x000300_00039F_001FF8, 0x000301_00039F_001FF9,
  0x000300_0003A9_001FFA, 0x000301_0003A9_001FFB, 0x000345_0003A9_001FFC,
  0x0000B4_001FFD, 0x002002_002000, 0x002003_002001,
  0x0003A9_002126, 0x00004B_00212A, 0x00030A_000041_00212B,
  0x000338_002190_00219A, 0x000338_002192_00219B, 0x000338_002194_0021AE,
  0x000338_0021D0_0021CD, 0x000338_0021D4_0021CE, 0x000338_0021D2_0021CF,
  0x000338_002203_002204, 0x000338_002208_002209, 0x000338_00220B_00220C,
  0x000338_002223_002224, 0x000338_002225_002226, 0x000338_00223C_002241,
  0x000338_002243_002244, 0x000338_002245_002247, 0x000338_002248_002249,
  0x000338_00003D_002260, 0x000338_002261_002262, 0x000338_00224D_00226D,
  0x000338_00003C_00226E, 0x000338_00003E_00226F, 0x000338_002264_002270,
  0x000338_002265_002271, 0x000338_002272_002274, 0x000338_002273_002275,
  0x000338_002276_002278, 0x000338_002277_002279, 0x000338_00227A_002280,
  0x000338_00227B_002281, 0x000338_002282_002284, 0x000338_002283_002285,
  0x000338_002286_002288, 0x000338_002287_002289, 0x000338_0022A2_0022AC,
  0x000338_0022A8_0022AD, 0x000338_0022A9_0022AE, 0x000338_0022AB_0022AF,
  0x000338_00227C_0022E0, 0x000338_00227D_0022E1, 0x000338_002291_0022E2,
  0x000338_002292_0022E3, 0x000338_0022B2_0022EA, 0x000338_0022B3_0022EB,
  0x000338_0022B4_0022EC, 0x000338_0022B5_0022ED, 0x003008_002329,
  0x003009_00232A, 0x000338_002ADD_002ADC, 0x003099_00304B_00304C,
  0x003099_00304D_00304E, 0x003099_00304F_003050, 0x003099_003051_003052,
  0x003099_003053_003054, 0x003099_003055_003056, 0x003099_003057_003058,
  0x003099_003059_00305A, 0x003099_00305B_00305C, 0x003099_00305D_00305E,
  0x003099_00305F_003060, 0x003099_003061_003062, 0x003099_003064_003065,
  0x003099_003066_003067, 0x003099_003068_003069, 0x003099_00306F_003070,
  0x00309A_00306F_003071, 0x003099_003072_003073, 0x00309A_003072_003074,
  0x003099_003075_003076, 0x00309A_003075_003077, 0x003099_003078_003079,
  0x00309A_003078_00307A, 0x003099_00307B_00307C, 0x00309A_00307B_00307D,
  0x003099_003046_003094, 0x003099_00309D_00309E, 0x003099_0030AB_0030AC,
  0x003099_0030AD_0030AE, 0x003099_0030AF_0030B0, 0x003099_0030B1_0030B2,
  0x003099_0030B3_0030B4, 0x003099_0030B5_0030B6, 0x003099_0030B7_0030B8,
  0x003099_0030B9_0030BA, 0x003099_0030BB_0030BC, 0x003099_0030BD_0030BE,
  0x003099_0030BF_0030C0, 0x003099_0030C1_0030C2, 0x003099_0030C4_0030C5,
  0x003099_0030C6_0030C7, 0x003099_0030C8_0030C9, 0x003099_0030CF_0030D0,
  0x00309A_0030CF_0030D1, 0x003099_0030D2_0030D3, 0x00309A_0030D2_0030D4,
  0x003099_0030D5_0030D6, 0x00309A_0030D5_0030D7, 0x003099_0030D8_0030D9,
  0x00309A_0030D8_0030DA, 0x003099_0030DB_0030DC, 0x00309A_0030DB_0030DD,
  0x003099_0030A6_0030F4, 0x003099_0030EF_0030F7, 0x003099_0030F0_0030F8,
  0x003099_0030F1_0030F9, 0x003099_0030F2_0030FA, 0x003099_0030FD_0030FE,
  0x0005B4_0005D9_00FB1D, 0x0005B7_0005F2_00FB1F, 0x0005C1_0005E9_00FB2A,
  0x0005C2_0005E9_00FB2B, 0x0005C1_0005BC_0005E9_00FB2C, 0x0005C2_0005BC_0005E9_00FB2D,
  0x0005B7_0005D0_00FB2E, 0x0005B8_0005D0_00FB2F, 0x0005BC_0005D0_00FB30,
  0x0005BC_0005D1_00FB31, 0x0005BC_0005D2_00FB32, 0x0005BC_0005D3_00FB33,
  0x0005BC_0005D4_00FB34, 0x0005BC_0005D5_00FB35, 0x0005BC_0005D6_00FB36,
  0x0005BC_0005D8_00FB38, 0x0005BC_0005D9_00FB39, 0x0005BC_0005DA_00FB3A,
  0x0005BC_0005DB_00FB3B, 0x0005BC_0005DC_00FB3C, 0x0005BC_0005DE_00FB3E,
  0x0005BC_0005E0_00FB40, 0x0005BC_0005E1_00FB41, 0x0005BC_0005E3_00FB43,
  0x0005BC_0005E4_00FB44, 0x0005BC_0005E6_00FB46, 0x0005BC_0005E7_00FB47,
  0x0005BC_0005E8_00FB48, 0x0005BC_0005E9_00FB49, 0x0005BC_0005EA_00FB4A,
  0x0005B9_0005D5_00FB4B, 0x0005BF_0005D1_00FB4C, 0x0005BF_0005DB_00FB4D,
  0x0005BF_0005E4_00FB4E, 0x000307_0105D2_0105C9, 0x000307_0105DA_0105E4,
  0x0110BA_011099_01109A, 0x0110BA_01109B_01109C, 0x0110BA_0110A5_0110AB,
  0x011127_011131_01112E, 0x011127_011132_01112F, 0x01133E_011347_01134B,
  0x011357_011347_01134C, 0x0113C9_011382_011383, 0x0113BB_011384_011385,
  0x0113C2_01138B_01138E, 0x0113C9_011390_011391, 0x0113C2_0113C2_0113C5,
  0x0113B8_0113C2_0113C7, 0x0113C9_0113C2_0113C8, 0x0114BA_0114B9_0114BB,
  0x0114B0_0114B9_0114BC, 0x0114BD_0114B9_0114BE, 0x0115AF_0115B8_0115BA,
  0x0115AF_0115B9_0115BB, 0x011930_011935_011938, 0x01611E_01611E_016121,
  0x016129_01611E_016122, 0x01611F_01611E_016123, 0x01611F_016129_016124,
  0x016120_01611E_016125, 0x01611F_01611E_01611E_016126, 0x01611F_016129_01611E_016127,
  0x016120_01611E_01611E_016128, 0x016D67_016D67_016D68, 0x016D67_016D63_016D69,
  0x016D67_016D67_016D63_016D6A, 0x01D165_01D157_01D15E, 0x01D165_01D158_01D15F,
  0x01D16E_01D165_01D158_01D160, 0x01D16F_01D165_01D158_01D161, 0x01D170_01D165_01D158_01D162,
  0x01D171_01D165_01D158_01D163, 0x01D172_01D165_01D158_01D164, 0x01D165_01D1B9_01D1BB,
  0x01D165_01D1BA_01D1BC, 0x01D16E_01D165_01D1B9_01D1BD, 0x01D16E_01D165_01D1BA_01D1BE,
  0x01D16F_01D165_01D1B9_01D1BF, 0x01D16F_01D165_01D1BA_01D1C0]

def isIdeograph (c : Char) : Bool :=
  (0xF900 ≤ c.toNat && c.toNat ≤ 0xFAFF) || 0x2F800 ≤ c.toNat

/-- A Hangul syllable as its two or three letters. -/
def decomposeHangul (c : Char) : List Char :=
  let index := c.toNat - 0xAC00
  let initial := Char.ofNat (0x1100 + index / 588)
  let medial := Char.ofNat (0x1161 + index % 588 / 28)
  if index % 28 = 0 then [initial, medial]
  else [initial, medial, Char.ofNat (0x11A7 + index % 28)]

/-- The full canonical decomposition of a character. -/
def decompose (c : Char) : List Char :=
  if c.toNat < 0xC0 then [c]
  else if 0xAC00 ≤ c.toNat ∧ c.toNat ≤ 0xD7A3 then decomposeHangul c
  else
    (Table.textOf? (if isIdeograph c then ideographs else letters) c).getD [c]

end ServedMedia.Canonical
