import ServedMedia.Text.Table

/-!
# Characters that a domain drops or refuses

Some characters leave no trace in a domain, such as the soft hyphen and the
variation selectors; others may not occur, such as private ones and those that
are not assigned.  The ranges are right for characters that stand for no other.
-/

namespace ServedMedia.Domain

/-- Ranges of characters: dropped ones have the value 1, refused ones 2. -/
def restrictedRanges : List Nat := [
  0x000080_0000A0_02, 0x0000A8_0000A8_02, 0x0000AD_0000AD_01, 0x0000AF_0000AF_02,
  0x0000B4_0000B4_02, 0x0000B8_0000B8_02, 0x0002D8_0002DD_02, 0x00034F_00034F_01,
  0x000378_00037A_02, 0x000380_000385_02, 0x00038B_00038D_02, 0x0003A2_0003A2_02,
  0x000530_000558_02, 0x00058B_00058C_02, 0x000590_000590_02, 0x0005C8_0005CF_02,
  0x0005EB_0005EE_02, 0x0005F5_000605_02, 0x00061C_00061C_02, 0x0006DD_0006DD_02,
  0x00070E_00070F_02, 0x00074B_00074C_02, 0x0007B2_0007BF_02, 0x0007FB_0007FC_02,
  0x00082E_00082F_02, 0x00083F_00083F_02, 0x00085C_00085D_02, 0x00085F_00085F_02,
  0x00086B_00086F_02, 0x000890_000896_02, 0x0008E2_0008E2_02, 0x000984_000984_02,
  0x00098D_00098E_02, 0x000991_000992_02, 0x0009A9_0009A9_02, 0x0009B1_0009B1_02,
  0x0009B3_0009B5_02, 0x0009BA_0009BB_02, 0x0009C5_0009C6_02, 0x0009C9_0009CA_02,
  0x0009CF_0009D6_02, 0x0009D8_0009DB_02, 0x0009DE_0009DE_02, 0x0009E4_0009E5_02,
  0x0009FF_000A00_02, 0x000A04_000A04_02, 0x000A0B_000A0E_02, 0x000A11_000A12_02,
  0x000A29_000A29_02, 0x000A31_000A31_02, 0x000A34_000A34_02, 0x000A37_000A37_02,
  0x000A3A_000A3B_02, 0x000A3D_000A3D_02, 0x000A43_000A46_02, 0x000A49_000A4A_02,
  0x000A4E_000A50_02, 0x000A52_000A58_02, 0x000A5D_000A5D_02, 0x000A5F_000A65_02,
  0x000A77_000A80_02, 0x000A84_000A84_02, 0x000A8E_000A8E_02, 0x000A92_000A92_02,
  0x000AA9_000AA9_02, 0x000AB1_000AB1_02, 0x000AB4_000AB4_02, 0x000ABA_000ABB_02,
  0x000AC6_000AC6_02, 0x000ACA_000ACA_02, 0x000ACE_000ACF_02, 0x000AD1_000ADF_02,
  0x000AE4_000AE5_02, 0x000AF2_000AF8_02, 0x000B00_000B00_02, 0x000B04_000B04_02,
  0x000B0D_000B0E_02, 0x000B11_000B12_02, 0x000B29_000B29_02, 0x000B31_000B31_02,
  0x000B34_000B34_02, 0x000B3A_000B3B_02, 0x000B45_000B46_02, 0x000B49_000B4A_02,
  0x000B4E_000B54_02, 0x000B58_000B5B_02, 0x000B5E_000B5E_02, 0x000B64_000B65_02,
  0x000B78_000B81_02, 0x000B84_000B84_02, 0x000B8B_000B8D_02, 0x000B91_000B91_02,
  0x000B96_000B98_02, 0x000B9B_000B9B_02, 0x000B9D_000B9D_02, 0x000BA0_000BA2_02,
  0x000BA5_000BA7_02, 0x000BAB_000BAD_02, 0x000BBA_000BBD_02, 0x000BC3_000BC5_02,
  0x000BC9_000BC9_02, 0x000BCE_000BCF_02, 0x000BD1_000BD6_02, 0x000BD8_000BE5_02,
  0x000BFB_000BFF_02, 0x000C0D_000C0D_02, 0x000C11_000C11_02, 0x000C29_000C29_02,
  0x000C3A_000C3B_02, 0x000C45_000C45_02, 0x000C49_000C49_02, 0x000C4E_000C54_02,
  0x000C57_000C57_02, 0x000C5B_000C5B_02, 0x000C5E_000C5F_02, 0x000C64_000C65_02,
  0x000C70_000C76_02, 0x000C8D_000C8D_02, 0x000C91_000C91_02, 0x000CA9_000CA9_02,
  0x000CB4_000CB4_02, 0x000CBA_000CBB_02, 0x000CC5_000CC5_02, 0x000CC9_000CC9_02,
  0x000CCE_000CD4_02, 0x000CD7_000CDB_02, 0x000CDF_000CDF_02, 0x000CE4_000CE5_02,
  0x000CF0_000CF0_02, 0x000CF4_000CFF_02, 0x000D0D_000D0D_02, 0x000D11_000D11_02,
  0x000D45_000D45_02, 0x000D49_000D49_02, 0x000D50_000D53_02, 0x000D64_000D65_02,
  0x000D80_000D80_02, 0x000D84_000D84_02, 0x000D97_000D99_02, 0x000DB2_000DB2_02,
  0x000DBC_000DBC_02, 0x000DBE_000DBF_02, 0x000DC7_000DC9_02, 0x000DCB_000DCE_02,
  0x000DD5_000DD5_02, 0x000DD7_000DD7_02, 0x000DE0_000DE5_02, 0x000DF0_000DF1_02,
  0x000DF5_000E00_02, 0x000E3B_000E3E_02, 0x000E5C_000E80_02, 0x000E83_000E83_02,
  0x000E85_000E85_02, 0x000E8B_000E8B_02, 0x000EA4_000EA4_02, 0x000EA6_000EA6_02,
  0x000EBE_000EBF_02, 0x000EC5_000EC5_02, 0x000EC7_000EC7_02, 0x000ECF_000ECF_02,
  0x000EDA_000EDB_02, 0x000EE0_000EFF_02, 0x000F48_000F48_02, 0x000F6D_000F70_02,
  0x000F98_000F98_02, 0x000FBD_000FBD_02, 0x000FCD_000FCD_02, 0x000FDB_000FFF_02,
  0x0010C6_0010CF_02, 0x00115F_001160_01, 0x001249_001249_02, 0x00124E_00124F_02,
  0x001257_001257_02, 0x001259_001259_02, 0x00125E_00125F_02, 0x001289_001289_02,
  0x00128E_00128F_02, 0x0012B1_0012B1_02, 0x0012B6_0012B7_02, 0x0012BF_0012BF_02,
  0x0012C1_0012C1_02, 0x0012C6_0012C7_02, 0x0012D7_0012D7_02, 0x001311_001311_02,
  0x001316_001317_02, 0x00135B_00135C_02, 0x00137D_00137F_02, 0x00139A_00139F_02,
  0x0013F6_0013FF_02, 0x001680_001680_02, 0x00169D_00169F_02, 0x0016F9_0016FF_02,
  0x001716_00171E_02, 0x001737_00173F_02, 0x001754_00175F_02, 0x00176D_00176D_02,
  0x001771_001771_02, 0x001774_00177F_02, 0x0017B4_0017B5_01, 0x0017DE_0017DF_02,
  0x0017EA_0017EF_02, 0x0017FA_0017FF_02, 0x00180B_00180F_01, 0x00181A_00181F_02,
  0x001879_00187F_02, 0x0018AB_0018AF_02, 0x0018F6_0018FF_02, 0x00191F_00191F_02,
  0x00192C_00192F_02, 0x00193C_00193F_02, 0x001941_001943_02, 0x00196E_00196F_02,
  0x001975_00197F_02, 0x0019AC_0019AF_02, 0x0019CA_0019CF_02, 0x0019DB_0019DD_02,
  0x001A1C_001A1D_02, 0x001A5F_001A5F_02, 0x001A7D_001A7E_02, 0x001A8A_001A8F_02,
  0x001A9A_001A9F_02, 0x001AAE_001AAF_02, 0x001ADE_001ADF_02, 0x001AEC_001AFF_02,
  0x001B4D_001B4D_02, 0x001BF4_001BFB_02, 0x001C38_001C3A_02, 0x001C4A_001C4C_02,
  0x001C8B_001CBC_02, 0x001CC8_001CCF_02, 0x001CFB_001CFF_02, 0x001F16_001F1F_02,
  0x001F46_001F4F_02, 0x001F58_001F5E_02, 0x001F7E_001F7F_02, 0x001FB5_001FB5_02,
  0x001FBD_001FBD_02, 0x001FBF_001FC5_02, 0x001FCD_001FCF_02, 0x001FD4_001FD5_02,
  0x001FDC_001FDF_02, 0x001FED_001FEE_02, 0x001FF0_001FF5_02, 0x001FFD_00200A_02,
  0x00200B_00200B_01, 0x00200E_00200F_02, 0x002017_002017_02, 0x002024_002026_02,
  0x002028_00202F_02, 0x00203E_00203E_02, 0x002047_002049_02, 0x00205F_00205F_02,
  0x002060_002064_01, 0x002065_002069_02, 0x00206A_00206F_01, 0x002072_00209F_02,
  0x0020C2_0020CF_02, 0x0020F1_002101_02, 0x002105_002106_02, 0x00218C_00218F_02,
  0x00242A_00243F_02, 0x00244B_00249B_02, 0x002A74_002A74_02, 0x002B74_002B75_02,
  0x002CF4_002CF8_02, 0x002D26_002D26_02, 0x002D28_002D2C_02, 0x002D2E_002D2F_02,
  0x002D68_002D6E_02, 0x002D71_002D7E_02, 0x002D97_002D9F_02, 0x002DA7_002DA7_02,
  0x002DAF_002DAF_02, 0x002DB7_002DB7_02, 0x002DBF_002DBF_02, 0x002DC7_002DC7_02,
  0x002DCF_002DCF_02, 0x002DD7_002DD7_02, 0x002DDF_002DDF_02, 0x002E5E_002E7F_02,
  0x002E9A_002E9A_02, 0x002EF4_003000_02, 0x003040_003040_02, 0x003097_003098_02,
  0x00309B_00309C_02, 0x003100_003104_02, 0x003130_003130_02, 0x003164_003164_01,
  0x00318F_00318F_02, 0x0031E6_0031EF_02, 0x00321F_00321F_02, 0x0033C2_0033D8_02,
  0x00A48D_00A48F_02, 0x00A4C7_00A4CF_02, 0x00A62C_00A63F_02, 0x00A6F8_00A6FF_02,
  0x00A7DD_00A7F0_02, 0x00A82D_00A82F_02, 0x00A83A_00A83F_02, 0x00A878_00A87F_02,
  0x00A8C6_00A8CD_02, 0x00A8DA_00A8DF_02, 0x00A954_00A95E_02, 0x00A97D_00A97F_02,
  0x00A9CE_00A9CE_02, 0x00A9DA_00A9DD_02, 0x00A9FF_00A9FF_02, 0x00AA37_00AA3F_02,
  0x00AA4E_00AA4F_02, 0x00AA5A_00AA5B_02, 0x00AAC3_00AADA_02, 0x00AAF7_00AB00_02,
  0x00AB07_00AB08_02, 0x00AB0F_00AB10_02, 0x00AB17_00AB1F_02, 0x00AB27_00AB27_02,
  0x00AB2F_00AB2F_02, 0x00AB6C_00AB6F_02, 0x00ABEE_00ABEF_02, 0x00ABFA_00ABFF_02,
  0x00D7A4_00D7AF_02, 0x00D7C7_00D7CA_02, 0x00D7FC_00F8FF_02, 0x00FA6E_00FA6F_02,
  0x00FADA_00FB1C_02, 0x00FB37_00FB37_02, 0x00FB3D_00FB3D_02, 0x00FB3F_00FB3F_02,
  0x00FB42_00FB42_02, 0x00FB45_00FB45_02, 0x00FC5E_00FC63_02, 0x00FDD0_00FDFB_02,
  0x00FE00_00FE0F_01, 0x00FE12_00FE1F_02, 0x00FE30_00FE30_02, 0x00FE47_00FE72_02,
  0x00FE74_00FEFE_02, 0x00FEFF_00FEFF_01, 0x00FF00_00FF5C_02, 0x00FFA0_00FFA0_01,
  0x00FFBF_00FFFF_02, 0x01000C_01000C_02, 0x010027_010027_02, 0x01003B_01003B_02,
  0x01003E_01003E_02, 0x01004E_01004F_02, 0x01005E_01007F_02, 0x0100FB_0100FF_02,
  0x010103_010106_02, 0x010134_010136_02, 0x01018F_01018F_02, 0x01019D_01019F_02,
  0x0101A1_0101CF_02, 0x0101FE_01027F_02, 0x01029D_01029F_02, 0x0102D1_0102DF_02,
  0x0102FC_0102FF_02, 0x010324_01032C_02, 0x01034B_01034F_02, 0x01037B_01037F_02,
  0x01039E_01039E_02, 0x0103C4_0103C7_02, 0x0103D6_0103FF_02, 0x01049E_01049F_02,
  0x0104AA_0104D7_02, 0x0104FC_0104FF_02, 0x010528_01052F_02, 0x010564_01056E_02,
  0x01057B_010596_02, 0x0105A2_0105A2_02, 0x0105B2_0105B2_02, 0x0105BA_0105BA_02,
  0x0105BD_0105BF_02, 0x0105F4_0105FF_02, 0x010737_01073F_02, 0x010756_01075F_02,
  0x010768_01077F_02, 0x010786_0107FF_02, 0x010806_010807_02, 0x010809_010809_02,
  0x010836_010836_02, 0x010839_01083B_02, 0x01083D_01083E_02, 0x010856_010856_02,
  0x01089F_0108A6_02, 0x0108B0_0108DF_02, 0x0108F3_0108F3_02, 0x0108F6_0108FA_02,
  0x01091C_01091E_02, 0x01093A_01093E_02, 0x01095A_01097F_02, 0x0109B8_0109BB_02,
  0x0109D0_0109D1_02, 0x010A04_010A04_02, 0x010A07_010A0B_02, 0x010A14_010A14_02,
  0x010A18_010A18_02, 0x010A36_010A37_02, 0x010A3B_010A3E_02, 0x010A49_010A4F_02,
  0x010A59_010A5F_02, 0x010AA0_010ABF_02, 0x010AE7_010AEA_02, 0x010AF7_010AFF_02,
  0x010B36_010B38_02, 0x010B56_010B57_02, 0x010B73_010B77_02, 0x010B92_010B98_02,
  0x010B9D_010BA8_02, 0x010BB0_010BFF_02, 0x010C49_010CBF_02, 0x010CF3_010CF9_02,
  0x010D28_010D2F_02, 0x010D3A_010D3F_02, 0x010D66_010D68_02, 0x010D86_010D8D_02,
  0x010D90_010E5F_02, 0x010E7F_010E7F_02, 0x010EAA_010EAA_02, 0x010EAE_010EAF_02,
  0x010EB2_010EC1_02, 0x010EC8_010ECF_02, 0x010ED9_010EF9_02, 0x010F28_010F2F_02,
  0x010F5A_010F6F_02, 0x010F8A_010FAF_02, 0x010FCC_010FDF_02, 0x010FF7_010FFF_02,
  0x01104E_011051_02, 0x011076_01107E_02, 0x0110BD_0110BD_02, 0x0110C3_0110CF_02,
  0x0110E9_0110EF_02, 0x0110FA_0110FF_02, 0x011135_011135_02, 0x011148_01114F_02,
  0x011177_01117F_02, 0x0111E0_0111E0_02, 0x0111F5_0111FF_02, 0x011212_011212_02,
  0x011242_01127F_02, 0x011287_011287_02, 0x011289_011289_02, 0x01128E_01128E_02,
  0x01129E_01129E_02, 0x0112AA_0112AF_02, 0x0112EB_0112EF_02, 0x0112FA_0112FF_02,
  0x011304_011304_02, 0x01130D_01130E_02, 0x011311_011312_02, 0x011329_011329_02,
  0x011331_011331_02, 0x011334_011334_02, 0x01133A_01133A_02, 0x011345_011346_02,
  0x011349_01134A_02, 0x01134E_01134F_02, 0x011351_011356_02, 0x011358_01135C_02,
  0x011364_011365_02, 0x01136D_01136F_02, 0x011375_01137F_02, 0x01138A_01138A_02,
  0x01138C_01138D_02, 0x01138F_01138F_02, 0x0113B6_0113B6_02, 0x0113C1_0113C1_02,
  0x0113C3_0113C4_02, 0x0113C6_0113C6_02, 0x0113CB_0113CB_02, 0x0113D6_0113D6_02,
  0x0113D9_0113E0_02, 0x0113E3_0113FF_02, 0x01145C_01145C_02, 0x011462_01147F_02,
  0x0114C8_0114CF_02, 0x0114DA_01157F_02, 0x0115B6_0115B7_02, 0x0115DE_0115FF_02,
  0x011645_01164F_02, 0x01165A_01165F_02, 0x01166D_01167F_02, 0x0116BA_0116BF_02,
  0x0116CA_0116CF_02, 0x0116E4_0116FF_02, 0x01171B_01171C_02, 0x01172C_01172F_02,
  0x011747_0117FF_02, 0x01183C_01189F_02, 0x0118F3_0118FE_02, 0x011907_011908_02,
  0x01190A_01190B_02, 0x011914_011914_02, 0x011917_011917_02, 0x011936_011936_02,
  0x011939_01193A_02, 0x011947_01194F_02, 0x01195A_01199F_02, 0x0119A8_0119A9_02,
  0x0119D8_0119D9_02, 0x0119E5_0119FF_02, 0x011A48_011A4F_02, 0x011AA3_011AAF_02,
  0x011AF9_011AFF_02, 0x011B0A_011B5F_02, 0x011B68_011BBF_02, 0x011BE2_011BEF_02,
  0x011BFA_011BFF_02, 0x011C09_011C09_02, 0x011C37_011C37_02, 0x011C46_011C4F_02,
  0x011C6D_011C6F_02, 0x011C90_011C91_02, 0x011CA8_011CA8_02, 0x011CB7_011CFF_02,
  0x011D07_011D07_02, 0x011D0A_011D0A_02, 0x011D37_011D39_02, 0x011D3B_011D3B_02,
  0x011D3E_011D3E_02, 0x011D48_011D4F_02, 0x011D5A_011D5F_02, 0x011D66_011D66_02,
  0x011D69_011D69_02, 0x011D8F_011D8F_02, 0x011D92_011D92_02, 0x011D99_011D9F_02,
  0x011DAA_011DAF_02, 0x011DDC_011DDF_02, 0x011DEA_011EDF_02, 0x011EF9_011EFF_02,
  0x011F11_011F11_02, 0x011F3B_011F3D_02, 0x011F5B_011FAF_02, 0x011FB1_011FBF_02,
  0x011FF2_011FFE_02, 0x01239A_0123FF_02, 0x01246F_01246F_02, 0x012475_01247F_02,
  0x012544_012F8F_02, 0x012FF3_012FFF_02, 0x013430_01343F_02, 0x013456_01345F_02,
  0x0143FB_0143FF_02, 0x014647_0160FF_02, 0x01613A_0167FF_02, 0x016A39_016A3F_02,
  0x016A5F_016A5F_02, 0x016A6A_016A6D_02, 0x016ABF_016ABF_02, 0x016ACA_016ACF_02,
  0x016AEE_016AEF_02, 0x016AF6_016AFF_02, 0x016B46_016B4F_02, 0x016B5A_016B5A_02,
  0x016B62_016B62_02, 0x016B78_016B7C_02, 0x016B90_016D3F_02, 0x016D7A_016E3F_02,
  0x016E9B_016EBA_02, 0x016ED4_016EFF_02, 0x016F4B_016F4E_02, 0x016F88_016F8E_02,
  0x016FA0_016FDF_02, 0x016FE5_016FEF_02, 0x016FF7_016FFF_02, 0x018CD6_018CFE_02,
  0x018D1F_018D7F_02, 0x018DF3_01AFEF_02, 0x01AFF4_01AFF4_02, 0x01AFFC_01AFFC_02,
  0x01AFFF_01AFFF_02, 0x01B123_01B131_02, 0x01B133_01B14F_02, 0x01B153_01B154_02,
  0x01B156_01B163_02, 0x01B168_01B16F_02, 0x01B2FC_01BBFF_02, 0x01BC6B_01BC6F_02,
  0x01BC7D_01BC7F_02, 0x01BC89_01BC8F_02, 0x01BC9A_01BC9B_02, 0x01BCA0_01BCA3_01,
  0x01BCA4_01CBFF_02, 0x01CCFD_01CCFF_02, 0x01CEB4_01CEB9_02, 0x01CED1_01CEDF_02,
  0x01CEF1_01CEFF_02, 0x01CF2E_01CF2F_02, 0x01CF47_01CF4F_02, 0x01CFC4_01CFFF_02,
  0x01D0F6_01D0FF_02, 0x01D127_01D128_02, 0x01D173_01D17A_01, 0x01D1EB_01D1FF_02,
  0x01D246_01D2BF_02, 0x01D2D4_01D2DF_02, 0x01D2F4_01D2FF_02, 0x01D357_01D35F_02,
  0x01D379_01D7CD_02, 0x01DA8C_01DA9A_02, 0x01DAA0_01DAA0_02, 0x01DAB0_01DEFF_02,
  0x01DF1F_01DF24_02, 0x01DF2B_01DFFF_02, 0x01E007_01E007_02, 0x01E019_01E01A_02,
  0x01E022_01E022_02, 0x01E025_01E025_02, 0x01E02B_01E08E_02, 0x01E090_01E0FF_02,
  0x01E12D_01E12F_02, 0x01E13E_01E13F_02, 0x01E14A_01E14D_02, 0x01E150_01E28F_02,
  0x01E2AF_01E2BF_02, 0x01E2FA_01E2FE_02, 0x01E300_01E4CF_02, 0x01E4FA_01E5CF_02,
  0x01E5FB_01E5FE_02, 0x01E600_01E6BF_02, 0x01E6DF_01E6DF_02, 0x01E6F6_01E6FD_02,
  0x01E700_01E7DF_02, 0x01E7E7_01E7E7_02, 0x01E7EC_01E7EC_02, 0x01E7EF_01E7EF_02,
  0x01E7FF_01E7FF_02, 0x01E8C5_01E8C6_02, 0x01E8D7_01E8FF_02, 0x01E94C_01E94F_02,
  0x01E95A_01E95D_02, 0x01E960_01EC70_02, 0x01ECB5_01ED00_02, 0x01ED3E_01EEEF_02,
  0x01EEF2_01EFFF_02, 0x01F02C_01F02F_02, 0x01F094_01F09F_02, 0x01F0AF_01F0B0_02,
  0x01F0C0_01F0C0_02, 0x01F0D0_01F0D0_02, 0x01F0F6_01F100_02, 0x01F1AE_01F1E5_02,
  0x01F203_01F25F_02, 0x01F266_01F2FF_02, 0x01F6D9_01F6DB_02, 0x01F6ED_01F6EF_02,
  0x01F6FD_01F6FF_02, 0x01F7DA_01F7DF_02, 0x01F7EC_01F7EF_02, 0x01F7F1_01F7FF_02,
  0x01F80C_01F80F_02, 0x01F848_01F84F_02, 0x01F85A_01F85F_02, 0x01F888_01F88F_02,
  0x01F8AE_01F8AF_02, 0x01F8BC_01F8BF_02, 0x01F8C2_01F8CF_02, 0x01F8D9_01F8FF_02,
  0x01FA58_01FA5F_02, 0x01FA6E_01FA6F_02, 0x01FA7D_01FA7F_02, 0x01FA8B_01FA8D_02,
  0x01FAC7_01FAC7_02, 0x01FAC9_01FACC_02, 0x01FADD_01FADE_02, 0x01FAEB_01FAEE_02,
  0x01FAF9_01FAFF_02, 0x01FB93_01FB93_02, 0x01FBFB_01FFFF_02, 0x02A6E0_02A6FF_02,
  0x02B81E_02B81F_02, 0x02CEAE_02CEAF_02, 0x02EBE1_02EBEF_02, 0x02EE5E_02F7FF_02,
  0x02FA1E_02FFFF_02, 0x03134B_03134F_02, 0x03347A_0E00FF_02, 0x0E0100_0E01EF_01,
  0x0E01F0_10FFFF_02]

/-- Whether a domain drops a character. -/
def isDropped (c : Char) : Bool := Table.valueIn restrictedRanges c == 1

/-- Whether a domain refuses a character. -/
def isRefused (c : Char) : Bool := Table.valueIn restrictedRanges c == 2

end ServedMedia.Domain
