import Verdict.Unicode.RangeTable

/-!
# Canonical decomposition

* `decompositionSteps`: the characters with a canonical decomposition, each with the one or two
  characters it splits into;
* `decompose`: the full canonical decomposition of one code point, Hangul syllables included.

Marks are left in the order in which the decomposition yields them: whoever drops all marks
afterwards does not see their order.
-/

namespace Verdict.Unicode

/-- Code points with a canonical decomposition and the two code points they split into, the second
    zero where there is one only; a numeral lists up to four of them, six hexadecimal digits a code
    point. -/
def decompositionSteps : List (Nat × Nat × Nat) := unpackTripleRows [
  0x0000C0_000041_000300_0000C1_000041_000301_0000C2_000041_000302_0000C3_000041_000303,
  0x0000C4_000041_000308_0000C5_000041_00030A_0000C7_000043_000327_0000C8_000045_000300,
  0x0000C9_000045_000301_0000CA_000045_000302_0000CB_000045_000308_0000CC_000049_000300,
  0x0000CD_000049_000301_0000CE_000049_000302_0000CF_000049_000308_0000D1_00004E_000303,
  0x0000D2_00004F_000300_0000D3_00004F_000301_0000D4_00004F_000302_0000D5_00004F_000303,
  0x0000D6_00004F_000308_0000D9_000055_000300_0000DA_000055_000301_0000DB_000055_000302,
  0x0000DC_000055_000308_0000DD_000059_000301_0000E0_000061_000300_0000E1_000061_000301,
  0x0000E2_000061_000302_0000E3_000061_000303_0000E4_000061_000308_0000E5_000061_00030A,
  0x0000E7_000063_000327_0000E8_000065_000300_0000E9_000065_000301_0000EA_000065_000302,
  0x0000EB_000065_000308_0000EC_000069_000300_0000ED_000069_000301_0000EE_000069_000302,
  0x0000EF_000069_000308_0000F1_00006E_000303_0000F2_00006F_000300_0000F3_00006F_000301,
  0x0000F4_00006F_000302_0000F5_00006F_000303_0000F6_00006F_000308_0000F9_000075_000300,
  0x0000FA_000075_000301_0000FB_000075_000302_0000FC_000075_000308_0000FD_000079_000301,
  0x0000FF_000079_000308_000100_000041_000304_000101_000061_000304_000102_000041_000306,
  0x000103_000061_000306_000104_000041_000328_000105_000061_000328_000106_000043_000301,
  0x000107_000063_000301_000108_000043_000302_000109_000063_000302_00010A_000043_000307,
  0x00010B_000063_000307_00010C_000043_00030C_00010D_000063_00030C_00010E_000044_00030C,
  0x00010F_000064_00030C_000112_000045_000304_000113_000065_000304_000114_000045_000306,
  0x000115_000065_000306_000116_000045_000307_000117_000065_000307_000118_000045_000328,
  0x000119_000065_000328_00011A_000045_00030C_00011B_000065_00030C_00011C_000047_000302,
  0x00011D_000067_000302_00011E_000047_000306_00011F_000067_000306_000120_000047_000307,
  0x000121_000067_000307_000122_000047_000327_000123_000067_000327_000124_000048_000302,
  0x000125_000068_000302_000128_000049_000303_000129_000069_000303_00012A_000049_000304,
  0x00012B_000069_000304_00012C_000049_000306_00012D_000069_000306_00012E_000049_000328,
  0x00012F_000069_000328_000130_000049_000307_000134_00004A_000302_000135_00006A_000302,
  0x000136_00004B_000327_000137_00006B_000327_000139_00004C_000301_00013A_00006C_000301,
  0x00013B_00004C_000327_00013C_00006C_000327_00013D_00004C_00030C_00013E_00006C_00030C,
  0x000143_00004E_000301_000144_00006E_000301_000145_00004E_000327_000146_00006E_000327,
  0x000147_00004E_00030C_000148_00006E_00030C_00014C_00004F_000304_00014D_00006F_000304,
  0x00014E_00004F_000306_00014F_00006F_000306_000150_00004F_00030B_000151_00006F_00030B,
  0x000154_000052_000301_000155_000072_000301_000156_000052_000327_000157_000072_000327,
  0x000158_000052_00030C_000159_000072_00030C_00015A_000053_000301_00015B_000073_000301,
  0x00015C_000053_000302_00015D_000073_000302_00015E_000053_000327_00015F_000073_000327,
  0x000160_000053_00030C_000161_000073_00030C_000162_000054_000327_000163_000074_000327,
  0x000164_000054_00030C_000165_000074_00030C_000168_000055_000303_000169_000075_000303,
  0x00016A_000055_000304_00016B_000075_000304_00016C_000055_000306_00016D_000075_000306,
  0x00016E_000055_00030A_00016F_000075_00030A_000170_000055_00030B_000171_000075_00030B,
  0x000172_000055_000328_000173_000075_000328_000174_000057_000302_000175_000077_000302,
  0x000176_000059_000302_000177_000079_000302_000178_000059_000308_000179_00005A_000301,
  0x00017A_00007A_000301_00017B_00005A_000307_00017C_00007A_000307_00017D_00005A_00030C,
  0x00017E_00007A_00030C_0001A0_00004F_00031B_0001A1_00006F_00031B_0001AF_000055_00031B,
  0x0001B0_000075_00031B_0001CD_000041_00030C_0001CE_000061_00030C_0001CF_000049_00030C,
  0x0001D0_000069_00030C_0001D1_00004F_00030C_0001D2_00006F_00030C_0001D3_000055_00030C,
  0x0001D4_000075_00030C_0001D5_0000DC_000304_0001D6_0000FC_000304_0001D7_0000DC_000301,
  0x0001D8_0000FC_000301_0001D9_0000DC_00030C_0001DA_0000FC_00030C_0001DB_0000DC_000300,
  0x0001DC_0000FC_000300_0001DE_0000C4_000304_0001DF_0000E4_000304_0001E0_000226_000304,
  0x0001E1_000227_000304_0001E2_0000C6_000304_0001E3_0000E6_000304_0001E6_000047_00030C,
  0x0001E7_000067_00030C_0001E8_00004B_00030C_0001E9_00006B_00030C_0001EA_00004F_000328,
  0x0001EB_00006F_000328_0001EC_0001EA_000304_0001ED_0001EB_000304_0001EE_0001B7_00030C,
  0x0001EF_000292_00030C_0001F0_00006A_00030C_0001F4_000047_000301_0001F5_000067_000301,
  0x0001F8_00004E_000300_0001F9_00006E_000300_0001FA_0000C5_000301_0001FB_0000E5_000301,
  0x0001FC_0000C6_000301_0001FD_0000E6_000301_0001FE_0000D8_000301_0001FF_0000F8_000301,
  0x000200_000041_00030F_000201_000061_00030F_000202_000041_000311_000203_000061_000311,
  0x000204_000045_00030F_000205_000065_00030F_000206_000045_000311_000207_000065_000311,
  0x000208_000049_00030F_000209_000069_00030F_00020A_000049_000311_00020B_000069_000311,
  0x00020C_00004F_00030F_00020D_00006F_00030F_00020E_00004F_000311_00020F_00006F_000311,
  0x000210_000052_00030F_000211_000072_00030F_000212_000052_000311_000213_000072_000311,
  0x000214_000055_00030F_000215_000075_00030F_000216_000055_000311_000217_000075_000311,
  0x000218_000053_000326_000219_000073_000326_00021A_000054_000326_00021B_000074_000326,
  0x00021E_000048_00030C_00021F_000068_00030C_000226_000041_000307_000227_000061_000307,
  0x000228_000045_000327_000229_000065_000327_00022A_0000D6_000304_00022B_0000F6_000304,
  0x00022C_0000D5_000304_00022D_0000F5_000304_00022E_00004F_000307_00022F_00006F_000307,
  0x000230_00022E_000304_000231_00022F_000304_000232_000059_000304_000233_000079_000304,
  0x000340_000300_000000_000341_000301_000000_000343_000313_000000_000344_000308_000301,
  0x000374_0002B9_000000_00037E_00003B_000000_000385_0000A8_000301_000386_000391_000301,
  0x000387_0000B7_000000_000388_000395_000301_000389_000397_000301_00038A_000399_000301,
  0x00038C_00039F_000301_00038E_0003A5_000301_00038F_0003A9_000301_000390_0003CA_000301,
  0x0003AA_000399_000308_0003AB_0003A5_000308_0003AC_0003B1_000301_0003AD_0003B5_000301,
  0x0003AE_0003B7_000301_0003AF_0003B9_000301_0003B0_0003CB_000301_0003CA_0003B9_000308,
  0x0003CB_0003C5_000308_0003CC_0003BF_000301_0003CD_0003C5_000301_0003CE_0003C9_000301,
  0x0003D3_0003D2_000301_0003D4_0003D2_000308_000400_000415_000300_000401_000415_000308,
  0x000403_000413_000301_000407_000406_000308_00040C_00041A_000301_00040D_000418_000300,
  0x00040E_000423_000306_000419_000418_000306_000439_000438_000306_000450_000435_000300,
  0x000451_000435_000308_000453_000433_000301_000457_000456_000308_00045C_00043A_000301,
  0x00045D_000438_000300_00045E_000443_000306_000476_000474_00030F_000477_000475_00030F,
  0x0004C1_000416_000306_0004C2_000436_000306_0004D0_000410_000306_0004D1_000430_000306,
  0x0004D2_000410_000308_0004D3_000430_000308_0004D6_000415_000306_0004D7_000435_000306,
  0x0004DA_0004D8_000308_0004DB_0004D9_000308_0004DC_000416_000308_0004DD_000436_000308,
  0x0004DE_000417_000308_0004DF_000437_000308_0004E2_000418_000304_0004E3_000438_000304,
  0x0004E4_000418_000308_0004E5_000438_000308_0004E6_00041E_000308_0004E7_00043E_000308,
  0x0004EA_0004E8_000308_0004EB_0004E9_000308_0004EC_00042D_000308_0004ED_00044D_000308,
  0x0004EE_000423_000304_0004EF_000443_000304_0004F0_000423_000308_0004F1_000443_000308,
  0x0004F2_000423_00030B_0004F3_000443_00030B_0004F4_000427_000308_0004F5_000447_000308,
  0x0004F8_00042B_000308_0004F9_00044B_000308_000622_000627_000653_000623_000627_000654,
  0x000624_000648_000654_000625_000627_000655_000626_00064A_000654_0006C0_0006D5_000654,
  0x0006C2_0006C1_000654_0006D3_0006D2_000654_000929_000928_00093C_000931_000930_00093C,
  0x000934_000933_00093C_000958_000915_00093C_000959_000916_00093C_00095A_000917_00093C,
  0x00095B_00091C_00093C_00095C_000921_00093C_00095D_000922_00093C_00095E_00092B_00093C,
  0x00095F_00092F_00093C_0009CB_0009C7_0009BE_0009CC_0009C7_0009D7_0009DC_0009A1_0009BC,
  0x0009DD_0009A2_0009BC_0009DF_0009AF_0009BC_000A33_000A32_000A3C_000A36_000A38_000A3C,
  0x000A59_000A16_000A3C_000A5A_000A17_000A3C_000A5B_000A1C_000A3C_000A5E_000A2B_000A3C,
  0x000B48_000B47_000B56_000B4B_000B47_000B3E_000B4C_000B47_000B57_000B5C_000B21_000B3C,
  0x000B5D_000B22_000B3C_000B94_000B92_000BD7_000BCA_000BC6_000BBE_000BCB_000BC7_000BBE,
  0x000BCC_000BC6_000BD7_000C48_000C46_000C56_000CC0_000CBF_000CD5_000CC7_000CC6_000CD5,
  0x000CC8_000CC6_000CD6_000CCA_000CC6_000CC2_000CCB_000CCA_000CD5_000D4A_000D46_000D3E,
  0x000D4B_000D47_000D3E_000D4C_000D46_000D57_000DDA_000DD9_000DCA_000DDC_000DD9_000DCF,
  0x000DDD_000DDC_000DCA_000DDE_000DD9_000DDF_000F43_000F42_000FB7_000F4D_000F4C_000FB7,
  0x000F52_000F51_000FB7_000F57_000F56_000FB7_000F5C_000F5B_000FB7_000F69_000F40_000FB5,
  0x000F73_000F71_000F72_000F75_000F71_000F74_000F76_000FB2_000F80_000F78_000FB3_000F80,
  0x000F81_000F71_000F80_000F93_000F92_000FB7_000F9D_000F9C_000FB7_000FA2_000FA1_000FB7,
  0x000FA7_000FA6_000FB7_000FAC_000FAB_000FB7_000FB9_000F90_000FB5_001026_001025_00102E,
  0x001B06_001B05_001B35_001B08_001B07_001B35_001B0A_001B09_001B35_001B0C_001B0B_001B35,
  0x001B0E_001B0D_001B35_001B12_001B11_001B35_001B3B_001B3A_001B35_001B3D_001B3C_001B35,
  0x001B40_001B3E_001B35_001B41_001B3F_001B35_001B43_001B42_001B35_001E00_000041_000325,
  0x001E01_000061_000325_001E02_000042_000307_001E03_000062_000307_001E04_000042_000323,
  0x001E05_000062_000323_001E06_000042_000331_001E07_000062_000331_001E08_0000C7_000301,
  0x001E09_0000E7_000301_001E0A_000044_000307_001E0B_000064_000307_001E0C_000044_000323,
  0x001E0D_000064_000323_001E0E_000044_000331_001E0F_000064_000331_001E10_000044_000327,
  0x001E11_000064_000327_001E12_000044_00032D_001E13_000064_00032D_001E14_000112_000300,
  0x001E15_000113_000300_001E16_000112_000301_001E17_000113_000301_001E18_000045_00032D,
  0x001E19_000065_00032D_001E1A_000045_000330_001E1B_000065_000330_001E1C_000228_000306,
  0x001E1D_000229_000306_001E1E_000046_000307_001E1F_000066_000307_001E20_000047_000304,
  0x001E21_000067_000304_001E22_000048_000307_001E23_000068_000307_001E24_000048_000323,
  0x001E25_000068_000323_001E26_000048_000308_001E27_000068_000308_001E28_000048_000327,
  0x001E29_000068_000327_001E2A_000048_00032E_001E2B_000068_00032E_001E2C_000049_000330,
  0x001E2D_000069_000330_001E2E_0000CF_000301_001E2F_0000EF_000301_001E30_00004B_000301,
  0x001E31_00006B_000301_001E32_00004B_000323_001E33_00006B_000323_001E34_00004B_000331,
  0x001E35_00006B_000331_001E36_00004C_000323_001E37_00006C_000323_001E38_001E36_000304,
  0x001E39_001E37_000304_001E3A_00004C_000331_001E3B_00006C_000331_001E3C_00004C_00032D,
  0x001E3D_00006C_00032D_001E3E_00004D_000301_001E3F_00006D_000301_001E40_00004D_000307,
  0x001E41_00006D_000307_001E42_00004D_000323_001E43_00006D_000323_001E44_00004E_000307,
  0x001E45_00006E_000307_001E46_00004E_000323_001E47_00006E_000323_001E48_00004E_000331,
  0x001E49_00006E_000331_001E4A_00004E_00032D_001E4B_00006E_00032D_001E4C_0000D5_000301,
  0x001E4D_0000F5_000301_001E4E_0000D5_000308_001E4F_0000F5_000308_001E50_00014C_000300,
  0x001E51_00014D_000300_001E52_00014C_000301_001E53_00014D_000301_001E54_000050_000301,
  0x001E55_000070_000301_001E56_000050_000307_001E57_000070_000307_001E58_000052_000307,
  0x001E59_000072_000307_001E5A_000052_000323_001E5B_000072_000323_001E5C_001E5A_000304,
  0x001E5D_001E5B_000304_001E5E_000052_000331_001E5F_000072_000331_001E60_000053_000307,
  0x001E61_000073_000307_001E62_000053_000323_001E63_000073_000323_001E64_00015A_000307,
  0x001E65_00015B_000307_001E66_000160_000307_001E67_000161_000307_001E68_001E62_000307,
  0x001E69_001E63_000307_001E6A_000054_000307_001E6B_000074_000307_001E6C_000054_000323,
  0x001E6D_000074_000323_001E6E_000054_000331_001E6F_000074_000331_001E70_000054_00032D,
  0x001E71_000074_00032D_001E72_000055_000324_001E73_000075_000324_001E74_000055_000330,
  0x001E75_000075_000330_001E76_000055_00032D_001E77_000075_00032D_001E78_000168_000301,
  0x001E79_000169_000301_001E7A_00016A_000308_001E7B_00016B_000308_001E7C_000056_000303,
  0x001E7D_000076_000303_001E7E_000056_000323_001E7F_000076_000323_001E80_000057_000300,
  0x001E81_000077_000300_001E82_000057_000301_001E83_000077_000301_001E84_000057_000308,
  0x001E85_000077_000308_001E86_000057_000307_001E87_000077_000307_001E88_000057_000323,
  0x001E89_000077_000323_001E8A_000058_000307_001E8B_000078_000307_001E8C_000058_000308,
  0x001E8D_000078_000308_001E8E_000059_000307_001E8F_000079_000307_001E90_00005A_000302,
  0x001E91_00007A_000302_001E92_00005A_000323_001E93_00007A_000323_001E94_00005A_000331,
  0x001E95_00007A_000331_001E96_000068_000331_001E97_000074_000308_001E98_000077_00030A,
  0x001E99_000079_00030A_001E9B_00017F_000307_001EA0_000041_000323_001EA1_000061_000323,
  0x001EA2_000041_000309_001EA3_000061_000309_001EA4_0000C2_000301_001EA5_0000E2_000301,
  0x001EA6_0000C2_000300_001EA7_0000E2_000300_001EA8_0000C2_000309_001EA9_0000E2_000309,
  0x001EAA_0000C2_000303_001EAB_0000E2_000303_001EAC_001EA0_000302_001EAD_001EA1_000302,
  0x001EAE_000102_000301_001EAF_000103_000301_001EB0_000102_000300_001EB1_000103_000300,
  0x001EB2_000102_000309_001EB3_000103_000309_001EB4_000102_000303_001EB5_000103_000303,
  0x001EB6_001EA0_000306_001EB7_001EA1_000306_001EB8_000045_000323_001EB9_000065_000323,
  0x001EBA_000045_000309_001EBB_000065_000309_001EBC_000045_000303_001EBD_000065_000303,
  0x001EBE_0000CA_000301_001EBF_0000EA_000301_001EC0_0000CA_000300_001EC1_0000EA_000300,
  0x001EC2_0000CA_000309_001EC3_0000EA_000309_001EC4_0000CA_000303_001EC5_0000EA_000303,
  0x001EC6_001EB8_000302_001EC7_001EB9_000302_001EC8_000049_000309_001EC9_000069_000309,
  0x001ECA_000049_000323_001ECB_000069_000323_001ECC_00004F_000323_001ECD_00006F_000323,
  0x001ECE_00004F_000309_001ECF_00006F_000309_001ED0_0000D4_000301_001ED1_0000F4_000301,
  0x001ED2_0000D4_000300_001ED3_0000F4_000300_001ED4_0000D4_000309_001ED5_0000F4_000309,
  0x001ED6_0000D4_000303_001ED7_0000F4_000303_001ED8_001ECC_000302_001ED9_001ECD_000302,
  0x001EDA_0001A0_000301_001EDB_0001A1_000301_001EDC_0001A0_000300_001EDD_0001A1_000300,
  0x001EDE_0001A0_000309_001EDF_0001A1_000309_001EE0_0001A0_000303_001EE1_0001A1_000303,
  0x001EE2_0001A0_000323_001EE3_0001A1_000323_001EE4_000055_000323_001EE5_000075_000323,
  0x001EE6_000055_000309_001EE7_000075_000309_001EE8_0001AF_000301_001EE9_0001B0_000301,
  0x001EEA_0001AF_000300_001EEB_0001B0_000300_001EEC_0001AF_000309_001EED_0001B0_000309,
  0x001EEE_0001AF_000303_001EEF_0001B0_000303_001EF0_0001AF_000323_001EF1_0001B0_000323,
  0x001EF2_000059_000300_001EF3_000079_000300_001EF4_000059_000323_001EF5_000079_000323,
  0x001EF6_000059_000309_001EF7_000079_000309_001EF8_000059_000303_001EF9_000079_000303,
  0x001F00_0003B1_000313_001F01_0003B1_000314_001F02_001F00_000300_001F03_001F01_000300,
  0x001F04_001F00_000301_001F05_001F01_000301_001F06_001F00_000342_001F07_001F01_000342,
  0x001F08_000391_000313_001F09_000391_000314_001F0A_001F08_000300_001F0B_001F09_000300,
  0x001F0C_001F08_000301_001F0D_001F09_000301_001F0E_001F08_000342_001F0F_001F09_000342,
  0x001F10_0003B5_000313_001F11_0003B5_000314_001F12_001F10_000300_001F13_001F11_000300,
  0x001F14_001F10_000301_001F15_001F11_000301_001F18_000395_000313_001F19_000395_000314,
  0x001F1A_001F18_000300_001F1B_001F19_000300_001F1C_001F18_000301_001F1D_001F19_000301,
  0x001F20_0003B7_000313_001F21_0003B7_000314_001F22_001F20_000300_001F23_001F21_000300,
  0x001F24_001F20_000301_001F25_001F21_000301_001F26_001F20_000342_001F27_001F21_000342,
  0x001F28_000397_000313_001F29_000397_000314_001F2A_001F28_000300_001F2B_001F29_000300,
  0x001F2C_001F28_000301_001F2D_001F29_000301_001F2E_001F28_000342_001F2F_001F29_000342,
  0x001F30_0003B9_000313_001F31_0003B9_000314_001F32_001F30_000300_001F33_001F31_000300,
  0x001F34_001F30_000301_001F35_001F31_000301_001F36_001F30_000342_001F37_001F31_000342,
  0x001F38_000399_000313_001F39_000399_000314_001F3A_001F38_000300_001F3B_001F39_000300,
  0x001F3C_001F38_000301_001F3D_001F39_000301_001F3E_001F38_000342_001F3F_001F39_000342,
  0x001F40_0003BF_000313_001F41_0003BF_000314_001F42_001F40_000300_001F43_001F41_000300,
  0x001F44_001F40_000301_001F45_001F41_000301_001F48_00039F_000313_001F49_00039F_000314,
  0x001F4A_001F48_000300_001F4B_001F49_000300_001F4C_001F48_000301_001F4D_001F49_000301,
  0x001F50_0003C5_000313_001F51_0003C5_000314_001F52_001F50_000300_001F53_001F51_000300,
  0x001F54_001F50_000301_001F55_001F51_000301_001F56_001F50_000342_001F57_001F51_000342,
  0x001F59_0003A5_000314_001F5B_001F59_000300_001F5D_001F59_000301_001F5F_001F59_000342,
  0x001F60_0003C9_000313_001F61_0003C9_000314_001F62_001F60_000300_001F63_001F61_000300,
  0x001F64_001F60_000301_001F65_001F61_000301_001F66_001F60_000342_001F67_001F61_000342,
  0x001F68_0003A9_000313_001F69_0003A9_000314_001F6A_001F68_000300_001F6B_001F69_000300,
  0x001F6C_001F68_000301_001F6D_001F69_000301_001F6E_001F68_000342_001F6F_001F69_000342,
  0x001F70_0003B1_000300_001F71_0003AC_000000_001F72_0003B5_000300_001F73_0003AD_000000,
  0x001F74_0003B7_000300_001F75_0003AE_000000_001F76_0003B9_000300_001F77_0003AF_000000,
  0x001F78_0003BF_000300_001F79_0003CC_000000_001F7A_0003C5_000300_001F7B_0003CD_000000,
  0x001F7C_0003C9_000300_001F7D_0003CE_000000_001F80_001F00_000345_001F81_001F01_000345,
  0x001F82_001F02_000345_001F83_001F03_000345_001F84_001F04_000345_001F85_001F05_000345,
  0x001F86_001F06_000345_001F87_001F07_000345_001F88_001F08_000345_001F89_001F09_000345,
  0x001F8A_001F0A_000345_001F8B_001F0B_000345_001F8C_001F0C_000345_001F8D_001F0D_000345,
  0x001F8E_001F0E_000345_001F8F_001F0F_000345_001F90_001F20_000345_001F91_001F21_000345,
  0x001F92_001F22_000345_001F93_001F23_000345_001F94_001F24_000345_001F95_001F25_000345,
  0x001F96_001F26_000345_001F97_001F27_000345_001F98_001F28_000345_001F99_001F29_000345,
  0x001F9A_001F2A_000345_001F9B_001F2B_000345_001F9C_001F2C_000345_001F9D_001F2D_000345,
  0x001F9E_001F2E_000345_001F9F_001F2F_000345_001FA0_001F60_000345_001FA1_001F61_000345,
  0x001FA2_001F62_000345_001FA3_001F63_000345_001FA4_001F64_000345_001FA5_001F65_000345,
  0x001FA6_001F66_000345_001FA7_001F67_000345_001FA8_001F68_000345_001FA9_001F69_000345,
  0x001FAA_001F6A_000345_001FAB_001F6B_000345_001FAC_001F6C_000345_001FAD_001F6D_000345,
  0x001FAE_001F6E_000345_001FAF_001F6F_000345_001FB0_0003B1_000306_001FB1_0003B1_000304,
  0x001FB2_001F70_000345_001FB3_0003B1_000345_001FB4_0003AC_000345_001FB6_0003B1_000342,
  0x001FB7_001FB6_000345_001FB8_000391_000306_001FB9_000391_000304_001FBA_000391_000300,
  0x001FBB_000386_000000_001FBC_000391_000345_001FBE_0003B9_000000_001FC1_0000A8_000342,
  0x001FC2_001F74_000345_001FC3_0003B7_000345_001FC4_0003AE_000345_001FC6_0003B7_000342,
  0x001FC7_001FC6_000345_001FC8_000395_000300_001FC9_000388_000000_001FCA_000397_000300,
  0x001FCB_000389_000000_001FCC_000397_000345_001FCD_001FBF_000300_001FCE_001FBF_000301,
  0x001FCF_001FBF_000342_001FD0_0003B9_000306_001FD1_0003B9_000304_001FD2_0003CA_000300,
  0x001FD3_000390_000000_001FD6_0003B9_000342_001FD7_0003CA_000342_001FD8_000399_000306,
  0x001FD9_000399_000304_001FDA_000399_000300_001FDB_00038A_000000_001FDD_001FFE_000300,
  0x001FDE_001FFE_000301_001FDF_001FFE_000342_001FE0_0003C5_000306_001FE1_0003C5_000304,
  0x001FE2_0003CB_000300_001FE3_0003B0_000000_001FE4_0003C1_000313_001FE5_0003C1_000314,
  0x001FE6_0003C5_000342_001FE7_0003CB_000342_001FE8_0003A5_000306_001FE9_0003A5_000304,
  0x001FEA_0003A5_000300_001FEB_00038E_000000_001FEC_0003A1_000314_001FED_0000A8_000300,
  0x001FEE_000385_000000_001FEF_000060_000000_001FF2_001F7C_000345_001FF3_0003C9_000345,
  0x001FF4_0003CE_000345_001FF6_0003C9_000342_001FF7_001FF6_000345_001FF8_00039F_000300,
  0x001FF9_00038C_000000_001FFA_0003A9_000300_001FFB_00038F_000000_001FFC_0003A9_000345,
  0x001FFD_0000B4_000000_002000_002002_000000_002001_002003_000000_002126_0003A9_000000,
  0x00212A_00004B_000000_00212B_0000C5_000000_00219A_002190_000338_00219B_002192_000338,
  0x0021AE_002194_000338_0021CD_0021D0_000338_0021CE_0021D4_000338_0021CF_0021D2_000338,
  0x002204_002203_000338_002209_002208_000338_00220C_00220B_000338_002224_002223_000338,
  0x002226_002225_000338_002241_00223C_000338_002244_002243_000338_002247_002245_000338,
  0x002249_002248_000338_002260_00003D_000338_002262_002261_000338_00226D_00224D_000338,
  0x00226E_00003C_000338_00226F_00003E_000338_002270_002264_000338_002271_002265_000338,
  0x002274_002272_000338_002275_002273_000338_002278_002276_000338_002279_002277_000338,
  0x002280_00227A_000338_002281_00227B_000338_002284_002282_000338_002285_002283_000338,
  0x002288_002286_000338_002289_002287_000338_0022AC_0022A2_000338_0022AD_0022A8_000338,
  0x0022AE_0022A9_000338_0022AF_0022AB_000338_0022E0_00227C_000338_0022E1_00227D_000338,
  0x0022E2_002291_000338_0022E3_002292_000338_0022EA_0022B2_000338_0022EB_0022B3_000338,
  0x0022EC_0022B4_000338_0022ED_0022B5_000338_002329_003008_000000_00232A_003009_000000,
  0x002ADC_002ADD_000338_00304C_00304B_003099_00304E_00304D_003099_003050_00304F_003099,
  0x003052_003051_003099_003054_003053_003099_003056_003055_003099_003058_003057_003099,
  0x00305A_003059_003099_00305C_00305B_003099_00305E_00305D_003099_003060_00305F_003099,
  0x003062_003061_003099_003065_003064_003099_003067_003066_003099_003069_003068_003099,
  0x003070_00306F_003099_003071_00306F_00309A_003073_003072_003099_003074_003072_00309A,
  0x003076_003075_003099_003077_003075_00309A_003079_003078_003099_00307A_003078_00309A,
  0x00307C_00307B_003099_00307D_00307B_00309A_003094_003046_003099_00309E_00309D_003099,
  0x0030AC_0030AB_003099_0030AE_0030AD_003099_0030B0_0030AF_003099_0030B2_0030B1_003099,
  0x0030B4_0030B3_003099_0030B6_0030B5_003099_0030B8_0030B7_003099_0030BA_0030B9_003099,
  0x0030BC_0030BB_003099_0030BE_0030BD_003099_0030C0_0030BF_003099_0030C2_0030C1_003099,
  0x0030C5_0030C4_003099_0030C7_0030C6_003099_0030C9_0030C8_003099_0030D0_0030CF_003099,
  0x0030D1_0030CF_00309A_0030D3_0030D2_003099_0030D4_0030D2_00309A_0030D6_0030D5_003099,
  0x0030D7_0030D5_00309A_0030D9_0030D8_003099_0030DA_0030D8_00309A_0030DC_0030DB_003099,
  0x0030DD_0030DB_00309A_0030F4_0030A6_003099_0030F7_0030EF_003099_0030F8_0030F0_003099,
  0x0030F9_0030F1_003099_0030FA_0030F2_003099_0030FE_0030FD_003099_00F900_008C48_000000,
  0x00F901_0066F4_000000_00F902_008ECA_000000_00F903_008CC8_000000_00F904_006ED1_000000,
  0x00F905_004E32_000000_00F906_0053E5_000000_00F907_009F9C_000000_00F908_009F9C_000000,
  0x00F909_005951_000000_00F90A_0091D1_000000_00F90B_005587_000000_00F90C_005948_000000,
  0x00F90D_0061F6_000000_00F90E_007669_000000_00F90F_007F85_000000_00F910_00863F_000000,
  0x00F911_0087BA_000000_00F912_0088F8_000000_00F913_00908F_000000_00F914_006A02_000000,
  0x00F915_006D1B_000000_00F916_0070D9_000000_00F917_0073DE_000000_00F918_00843D_000000,
  0x00F919_00916A_000000_00F91A_0099F1_000000_00F91B_004E82_000000_00F91C_005375_000000,
  0x00F91D_006B04_000000_00F91E_00721B_000000_00F91F_00862D_000000_00F920_009E1E_000000,
  0x00F921_005D50_000000_00F922_006FEB_000000_00F923_0085CD_000000_00F924_008964_000000,
  0x00F925_0062C9_000000_00F926_0081D8_000000_00F927_00881F_000000_00F928_005ECA_000000,
  0x00F929_006717_000000_00F92A_006D6A_000000_00F92B_0072FC_000000_00F92C_0090CE_000000,
  0x00F92D_004F86_000000_00F92E_0051B7_000000_00F92F_0052DE_000000_00F930_0064C4_000000,
  0x00F931_006AD3_000000_00F932_007210_000000_00F933_0076E7_000000_00F934_008001_000000,
  0x00F935_008606_000000_00F936_00865C_000000_00F937_008DEF_000000_00F938_009732_000000,
  0x00F939_009B6F_000000_00F93A_009DFA_000000_00F93B_00788C_000000_00F93C_00797F_000000,
  0x00F93D_007DA0_000000_00F93E_0083C9_000000_00F93F_009304_000000_00F940_009E7F_000000,
  0x00F941_008AD6_000000_00F942_0058DF_000000_00F943_005F04_000000_00F944_007C60_000000,
  0x00F945_00807E_000000_00F946_007262_000000_00F947_0078CA_000000_00F948_008CC2_000000,
  0x00F949_0096F7_000000_00F94A_0058D8_000000_00F94B_005C62_000000_00F94C_006A13_000000,
  0x00F94D_006DDA_000000_00F94E_006F0F_000000_00F94F_007D2F_000000_00F950_007E37_000000,
  0x00F951_00964B_000000_00F952_0052D2_000000_00F953_00808B_000000_00F954_0051DC_000000,
  0x00F955_0051CC_000000_00F956_007A1C_000000_00F957_007DBE_000000_00F958_0083F1_000000,
  0x00F959_009675_000000_00F95A_008B80_000000_00F95B_0062CF_000000_00F95C_006A02_000000,
  0x00F95D_008AFE_000000_00F95E_004E39_000000_00F95F_005BE7_000000_00F960_006012_000000,
  0x00F961_007387_000000_00F962_007570_000000_00F963_005317_000000_00F964_0078FB_000000,
  0x00F965_004FBF_000000_00F966_005FA9_000000_00F967_004E0D_000000_00F968_006CCC_000000,
  0x00F969_006578_000000_00F96A_007D22_000000_00F96B_0053C3_000000_00F96C_00585E_000000,
  0x00F96D_007701_000000_00F96E_008449_000000_00F96F_008AAA_000000_00F970_006BBA_000000,
  0x00F971_008FB0_000000_00F972_006C88_000000_00F973_0062FE_000000_00F974_0082E5_000000,
  0x00F975_0063A0_000000_00F976_007565_000000_00F977_004EAE_000000_00F978_005169_000000,
  0x00F979_0051C9_000000_00F97A_006881_000000_00F97B_007CE7_000000_00F97C_00826F_000000,
  0x00F97D_008AD2_000000_00F97E_0091CF_000000_00F97F_0052F5_000000_00F980_005442_000000,
  0x00F981_005973_000000_00F982_005EEC_000000_00F983_0065C5_000000_00F984_006FFE_000000,
  0x00F985_00792A_000000_00F986_0095AD_000000_00F987_009A6A_000000_00F988_009E97_000000,
  0x00F989_009ECE_000000_00F98A_00529B_000000_00F98B_0066C6_000000_00F98C_006B77_000000,
  0x00F98D_008F62_000000_00F98E_005E74_000000_00F98F_006190_000000_00F990_006200_000000,
  0x00F991_00649A_000000_00F992_006F23_000000_00F993_007149_000000_00F994_007489_000000,
  0x00F995_0079CA_000000_00F996_007DF4_000000_00F997_00806F_000000_00F998_008F26_000000,
  0x00F999_0084EE_000000_00F99A_009023_000000_00F99B_00934A_000000_00F99C_005217_000000,
  0x00F99D_0052A3_000000_00F99E_0054BD_000000_00F99F_0070C8_000000_00F9A0_0088C2_000000,
  0x00F9A1_008AAA_000000_00F9A2_005EC9_000000_00F9A3_005FF5_000000_00F9A4_00637B_000000,
  0x00F9A5_006BAE_000000_00F9A6_007C3E_000000_00F9A7_007375_000000_00F9A8_004EE4_000000,
  0x00F9A9_0056F9_000000_00F9AA_005BE7_000000_00F9AB_005DBA_000000_00F9AC_00601C_000000,
  0x00F9AD_0073B2_000000_00F9AE_007469_000000_00F9AF_007F9A_000000_00F9B0_008046_000000,
  0x00F9B1_009234_000000_00F9B2_0096F6_000000_00F9B3_009748_000000_00F9B4_009818_000000,
  0x00F9B5_004F8B_000000_00F9B6_0079AE_000000_00F9B7_0091B4_000000_00F9B8_0096B8_000000,
  0x00F9B9_0060E1_000000_00F9BA_004E86_000000_00F9BB_0050DA_000000_00F9BC_005BEE_000000,
  0x00F9BD_005C3F_000000_00F9BE_006599_000000_00F9BF_006A02_000000_00F9C0_0071CE_000000,
  0x00F9C1_007642_000000_00F9C2_0084FC_000000_00F9C3_00907C_000000_00F9C4_009F8D_000000,
  0x00F9C5_006688_000000_00F9C6_00962E_000000_00F9C7_005289_000000_00F9C8_00677B_000000,
  0x00F9C9_0067F3_000000_00F9CA_006D41_000000_00F9CB_006E9C_000000_00F9CC_007409_000000,
  0x00F9CD_007559_000000_00F9CE_00786B_000000_00F9CF_007D10_000000_00F9D0_00985E_000000,
  0x00F9D1_00516D_000000_00F9D2_00622E_000000_00F9D3_009678_000000_00F9D4_00502B_000000,
  0x00F9D5_005D19_000000_00F9D6_006DEA_000000_00F9D7_008F2A_000000_00F9D8_005F8B_000000,
  0x00F9D9_006144_000000_00F9DA_006817_000000_00F9DB_007387_000000_00F9DC_009686_000000,
  0x00F9DD_005229_000000_00F9DE_00540F_000000_00F9DF_005C65_000000_00F9E0_006613_000000,
  0x00F9E1_00674E_000000_00F9E2_0068A8_000000_00F9E3_006CE5_000000_00F9E4_007406_000000,
  0x00F9E5_0075E2_000000_00F9E6_007F79_000000_00F9E7_0088CF_000000_00F9E8_0088E1_000000,
  0x00F9E9_0091CC_000000_00F9EA_0096E2_000000_00F9EB_00533F_000000_00F9EC_006EBA_000000,
  0x00F9ED_00541D_000000_00F9EE_0071D0_000000_00F9EF_007498_000000_00F9F0_0085FA_000000,
  0x00F9F1_0096A3_000000_00F9F2_009C57_000000_00F9F3_009E9F_000000_00F9F4_006797_000000,
  0x00F9F5_006DCB_000000_00F9F6_0081E8_000000_00F9F7_007ACB_000000_00F9F8_007B20_000000,
  0x00F9F9_007C92_000000_00F9FA_0072C0_000000_00F9FB_007099_000000_00F9FC_008B58_000000,
  0x00F9FD_004EC0_000000_00F9FE_008336_000000_00F9FF_00523A_000000_00FA00_005207_000000,
  0x00FA01_005EA6_000000_00FA02_0062D3_000000_00FA03_007CD6_000000_00FA04_005B85_000000,
  0x00FA05_006D1E_000000_00FA06_0066B4_000000_00FA07_008F3B_000000_00FA08_00884C_000000,
  0x00FA09_00964D_000000_00FA0A_00898B_000000_00FA0B_005ED3_000000_00FA0C_005140_000000,
  0x00FA0D_0055C0_000000_00FA10_00585A_000000_00FA12_006674_000000_00FA15_0051DE_000000,
  0x00FA16_00732A_000000_00FA17_0076CA_000000_00FA18_00793C_000000_00FA19_00795E_000000,
  0x00FA1A_007965_000000_00FA1B_00798F_000000_00FA1C_009756_000000_00FA1D_007CBE_000000,
  0x00FA1E_007FBD_000000_00FA20_008612_000000_00FA22_008AF8_000000_00FA25_009038_000000,
  0x00FA26_0090FD_000000_00FA2A_0098EF_000000_00FA2B_0098FC_000000_00FA2C_009928_000000,
  0x00FA2D_009DB4_000000_00FA2E_0090DE_000000_00FA2F_0096B7_000000_00FA30_004FAE_000000,
  0x00FA31_0050E7_000000_00FA32_00514D_000000_00FA33_0052C9_000000_00FA34_0052E4_000000,
  0x00FA35_005351_000000_00FA36_00559D_000000_00FA37_005606_000000_00FA38_005668_000000,
  0x00FA39_005840_000000_00FA3A_0058A8_000000_00FA3B_005C64_000000_00FA3C_005C6E_000000,
  0x00FA3D_006094_000000_00FA3E_006168_000000_00FA3F_00618E_000000_00FA40_0061F2_000000,
  0x00FA41_00654F_000000_00FA42_0065E2_000000_00FA43_006691_000000_00FA44_006885_000000,
  0x00FA45_006D77_000000_00FA46_006E1A_000000_00FA47_006F22_000000_00FA48_00716E_000000,
  0x00FA49_00722B_000000_00FA4A_007422_000000_00FA4B_007891_000000_00FA4C_00793E_000000,
  0x00FA4D_007949_000000_00FA4E_007948_000000_00FA4F_007950_000000_00FA50_007956_000000,
  0x00FA51_00795D_000000_00FA52_00798D_000000_00FA53_00798E_000000_00FA54_007A40_000000,
  0x00FA55_007A81_000000_00FA56_007BC0_000000_00FA57_007DF4_000000_00FA58_007E09_000000,
  0x00FA59_007E41_000000_00FA5A_007F72_000000_00FA5B_008005_000000_00FA5C_0081ED_000000,
  0x00FA5D_008279_000000_00FA5E_008279_000000_00FA5F_008457_000000_00FA60_008910_000000,
  0x00FA61_008996_000000_00FA62_008B01_000000_00FA63_008B39_000000_00FA64_008CD3_000000,
  0x00FA65_008D08_000000_00FA66_008FB6_000000_00FA67_009038_000000_00FA68_0096E3_000000,
  0x00FA69_0097FF_000000_00FA6A_00983B_000000_00FA6B_006075_000000_00FA6C_0242EE_000000,
  0x00FA6D_008218_000000_00FA70_004E26_000000_00FA71_0051B5_000000_00FA72_005168_000000,
  0x00FA73_004F80_000000_00FA74_005145_000000_00FA75_005180_000000_00FA76_0052C7_000000,
  0x00FA77_0052FA_000000_00FA78_00559D_000000_00FA79_005555_000000_00FA7A_005599_000000,
  0x00FA7B_0055E2_000000_00FA7C_00585A_000000_00FA7D_0058B3_000000_00FA7E_005944_000000,
  0x00FA7F_005954_000000_00FA80_005A62_000000_00FA81_005B28_000000_00FA82_005ED2_000000,
  0x00FA83_005ED9_000000_00FA84_005F69_000000_00FA85_005FAD_000000_00FA86_0060D8_000000,
  0x00FA87_00614E_000000_00FA88_006108_000000_00FA89_00618E_000000_00FA8A_006160_000000,
  0x00FA8B_0061F2_000000_00FA8C_006234_000000_00FA8D_0063C4_000000_00FA8E_00641C_000000,
  0x00FA8F_006452_000000_00FA90_006556_000000_00FA91_006674_000000_00FA92_006717_000000,
  0x00FA93_00671B_000000_00FA94_006756_000000_00FA95_006B79_000000_00FA96_006BBA_000000,
  0x00FA97_006D41_000000_00FA98_006EDB_000000_00FA99_006ECB_000000_00FA9A_006F22_000000,
  0x00FA9B_00701E_000000_00FA9C_00716E_000000_00FA9D_0077A7_000000_00FA9E_007235_000000,
  0x00FA9F_0072AF_000000_00FAA0_00732A_000000_00FAA1_007471_000000_00FAA2_007506_000000,
  0x00FAA3_00753B_000000_00FAA4_00761D_000000_00FAA5_00761F_000000_00FAA6_0076CA_000000,
  0x00FAA7_0076DB_000000_00FAA8_0076F4_000000_00FAA9_00774A_000000_00FAAA_007740_000000,
  0x00FAAB_0078CC_000000_00FAAC_007AB1_000000_00FAAD_007BC0_000000_00FAAE_007C7B_000000,
  0x00FAAF_007D5B_000000_00FAB0_007DF4_000000_00FAB1_007F3E_000000_00FAB2_008005_000000,
  0x00FAB3_008352_000000_00FAB4_0083EF_000000_00FAB5_008779_000000_00FAB6_008941_000000,
  0x00FAB7_008986_000000_00FAB8_008996_000000_00FAB9_008ABF_000000_00FABA_008AF8_000000,
  0x00FABB_008ACB_000000_00FABC_008B01_000000_00FABD_008AFE_000000_00FABE_008AED_000000,
  0x00FABF_008B39_000000_00FAC0_008B8A_000000_00FAC1_008D08_000000_00FAC2_008F38_000000,
  0x00FAC3_009072_000000_00FAC4_009199_000000_00FAC5_009276_000000_00FAC6_00967C_000000,
  0x00FAC7_0096E3_000000_00FAC8_009756_000000_00FAC9_0097DB_000000_00FACA_0097FF_000000,
  0x00FACB_00980B_000000_00FACC_00983B_000000_00FACD_009B12_000000_00FACE_009F9C_000000,
  0x00FACF_02284A_000000_00FAD0_022844_000000_00FAD1_0233D5_000000_00FAD2_003B9D_000000,
  0x00FAD3_004018_000000_00FAD4_004039_000000_00FAD5_025249_000000_00FAD6_025CD0_000000,
  0x00FAD7_027ED3_000000_00FAD8_009F43_000000_00FAD9_009F8E_000000_00FB1D_0005D9_0005B4,
  0x00FB1F_0005F2_0005B7_00FB2A_0005E9_0005C1_00FB2B_0005E9_0005C2_00FB2C_00FB49_0005C1,
  0x00FB2D_00FB49_0005C2_00FB2E_0005D0_0005B7_00FB2F_0005D0_0005B8_00FB30_0005D0_0005BC,
  0x00FB31_0005D1_0005BC_00FB32_0005D2_0005BC_00FB33_0005D3_0005BC_00FB34_0005D4_0005BC,
  0x00FB35_0005D5_0005BC_00FB36_0005D6_0005BC_00FB38_0005D8_0005BC_00FB39_0005D9_0005BC,
  0x00FB3A_0005DA_0005BC_00FB3B_0005DB_0005BC_00FB3C_0005DC_0005BC_00FB3E_0005DE_0005BC,
  0x00FB40_0005E0_0005BC_00FB41_0005E1_0005BC_00FB43_0005E3_0005BC_00FB44_0005E4_0005BC,
  0x00FB46_0005E6_0005BC_00FB47_0005E7_0005BC_00FB48_0005E8_0005BC_00FB49_0005E9_0005BC,
  0x00FB4A_0005EA_0005BC_00FB4B_0005D5_0005B9_00FB4C_0005D1_0005BF_00FB4D_0005DB_0005BF,
  0x00FB4E_0005E4_0005BF_0105C9_0105D2_000307_0105E4_0105DA_000307_01109A_011099_0110BA,
  0x01109C_01109B_0110BA_0110AB_0110A5_0110BA_01112E_011131_011127_01112F_011132_011127,
  0x01134B_011347_01133E_01134C_011347_011357_011383_011382_0113C9_011385_011384_0113BB,
  0x01138E_01138B_0113C2_011391_011390_0113C9_0113C5_0113C2_0113C2_0113C7_0113C2_0113B8,
  0x0113C8_0113C2_0113C9_0114BB_0114B9_0114BA_0114BC_0114B9_0114B0_0114BE_0114B9_0114BD,
  0x0115BA_0115B8_0115AF_0115BB_0115B9_0115AF_011938_011935_011930_016121_01611E_01611E,
  0x016122_01611E_016129_016123_01611E_01611F_016124_016129_01611F_016125_01611E_016120,
  0x016126_016121_01611F_016127_016122_01611F_016128_016121_016120_016D68_016D67_016D67,
  0x016D69_016D63_016D67_016D6A_016D69_016D67_01D15E_01D157_01D165_01D15F_01D158_01D165,
  0x01D160_01D15F_01D16E_01D161_01D15F_01D16F_01D162_01D15F_01D170_01D163_01D15F_01D171,
  0x01D164_01D15F_01D172_01D1BB_01D1B9_01D165_01D1BC_01D1BA_01D165_01D1BD_01D1BB_01D16E,
  0x01D1BE_01D1BC_01D16E_01D1BF_01D1BB_01D16F_01D1C0_01D1BC_01D16F_02F800_004E3D_000000,
  0x02F801_004E38_000000_02F802_004E41_000000_02F803_020122_000000_02F804_004F60_000000,
  0x02F805_004FAE_000000_02F806_004FBB_000000_02F807_005002_000000_02F808_00507A_000000,
  0x02F809_005099_000000_02F80A_0050E7_000000_02F80B_0050CF_000000_02F80C_00349E_000000,
  0x02F80D_02063A_000000_02F80E_00514D_000000_02F80F_005154_000000_02F810_005164_000000,
  0x02F811_005177_000000_02F812_02051C_000000_02F813_0034B9_000000_02F814_005167_000000,
  0x02F815_00518D_000000_02F816_02054B_000000_02F817_005197_000000_02F818_0051A4_000000,
  0x02F819_004ECC_000000_02F81A_0051AC_000000_02F81B_0051B5_000000_02F81C_0291DF_000000,
  0x02F81D_0051F5_000000_02F81E_005203_000000_02F81F_0034DF_000000_02F820_00523B_000000,
  0x02F821_005246_000000_02F822_005272_000000_02F823_005277_000000_02F824_003515_000000,
  0x02F825_0052C7_000000_02F826_0052C9_000000_02F827_0052E4_000000_02F828_0052FA_000000,
  0x02F829_005305_000000_02F82A_005306_000000_02F82B_005317_000000_02F82C_005349_000000,
  0x02F82D_005351_000000_02F82E_00535A_000000_02F82F_005373_000000_02F830_00537D_000000,
  0x02F831_00537F_000000_02F832_00537F_000000_02F833_00537F_000000_02F834_020A2C_000000,
  0x02F835_007070_000000_02F836_0053CA_000000_02F837_0053DF_000000_02F838_020B63_000000,
  0x02F839_0053EB_000000_02F83A_0053F1_000000_02F83B_005406_000000_02F83C_00549E_000000,
  0x02F83D_005438_000000_02F83E_005448_000000_02F83F_005468_000000_02F840_0054A2_000000,
  0x02F841_0054F6_000000_02F842_005510_000000_02F843_005553_000000_02F844_005563_000000,
  0x02F845_005584_000000_02F846_005584_000000_02F847_005599_000000_02F848_0055AB_000000,
  0x02F849_0055B3_000000_02F84A_0055C2_000000_02F84B_005716_000000_02F84C_005606_000000,
  0x02F84D_005717_000000_02F84E_005651_000000_02F84F_005674_000000_02F850_005207_000000,
  0x02F851_0058EE_000000_02F852_0057CE_000000_02F853_0057F4_000000_02F854_00580D_000000,
  0x02F855_00578B_000000_02F856_005832_000000_02F857_005831_000000_02F858_0058AC_000000,
  0x02F859_0214E4_000000_02F85A_0058F2_000000_02F85B_0058F7_000000_02F85C_005906_000000,
  0x02F85D_00591A_000000_02F85E_005922_000000_02F85F_005962_000000_02F860_0216A8_000000,
  0x02F861_0216EA_000000_02F862_0059EC_000000_02F863_005A1B_000000_02F864_005A27_000000,
  0x02F865_0059D8_000000_02F866_005A66_000000_02F867_0036EE_000000_02F868_0036FC_000000,
  0x02F869_005B08_000000_02F86A_005B3E_000000_02F86B_005B3E_000000_02F86C_0219C8_000000,
  0x02F86D_005BC3_000000_02F86E_005BD8_000000_02F86F_005BE7_000000_02F870_005BF3_000000,
  0x02F871_021B18_000000_02F872_005BFF_000000_02F873_005C06_000000_02F874_005F53_000000,
  0x02F875_005C22_000000_02F876_003781_000000_02F877_005C60_000000_02F878_005C6E_000000,
  0x02F879_005CC0_000000_02F87A_005C8D_000000_02F87B_021DE4_000000_02F87C_005D43_000000,
  0x02F87D_021DE6_000000_02F87E_005D6E_000000_02F87F_005D6B_000000_02F880_005D7C_000000,
  0x02F881_005DE1_000000_02F882_005DE2_000000_02F883_00382F_000000_02F884_005DFD_000000,
  0x02F885_005E28_000000_02F886_005E3D_000000_02F887_005E69_000000_02F888_003862_000000,
  0x02F889_022183_000000_02F88A_00387C_000000_02F88B_005EB0_000000_02F88C_005EB3_000000,
  0x02F88D_005EB6_000000_02F88E_005ECA_000000_02F88F_02A392_000000_02F890_005EFE_000000,
  0x02F891_022331_000000_02F892_022331_000000_02F893_008201_000000_02F894_005F22_000000,
  0x02F895_005F22_000000_02F896_0038C7_000000_02F897_0232B8_000000_02F898_0261DA_000000,
  0x02F899_005F62_000000_02F89A_005F6B_000000_02F89B_0038E3_000000_02F89C_005F9A_000000,
  0x02F89D_005FCD_000000_02F89E_005FD7_000000_02F89F_005FF9_000000_02F8A0_006081_000000,
  0x02F8A1_00393A_000000_02F8A2_00391C_000000_02F8A3_006094_000000_02F8A4_0226D4_000000,
  0x02F8A5_0060C7_000000_02F8A6_006148_000000_02F8A7_00614C_000000_02F8A8_00614E_000000,
  0x02F8A9_00614C_000000_02F8AA_00617A_000000_02F8AB_00618E_000000_02F8AC_0061B2_000000,
  0x02F8AD_0061A4_000000_02F8AE_0061AF_000000_02F8AF_0061DE_000000_02F8B0_0061F2_000000,
  0x02F8B1_0061F6_000000_02F8B2_006210_000000_02F8B3_00621B_000000_02F8B4_00625D_000000,
  0x02F8B5_0062B1_000000_02F8B6_0062D4_000000_02F8B7_006350_000000_02F8B8_022B0C_000000,
  0x02F8B9_00633D_000000_02F8BA_0062FC_000000_02F8BB_006368_000000_02F8BC_006383_000000,
  0x02F8BD_0063E4_000000_02F8BE_022BF1_000000_02F8BF_006422_000000_02F8C0_0063C5_000000,
  0x02F8C1_0063A9_000000_02F8C2_003A2E_000000_02F8C3_006469_000000_02F8C4_00647E_000000,
  0x02F8C5_00649D_000000_02F8C6_006477_000000_02F8C7_003A6C_000000_02F8C8_00654F_000000,
  0x02F8C9_00656C_000000_02F8CA_02300A_000000_02F8CB_0065E3_000000_02F8CC_0066F8_000000,
  0x02F8CD_006649_000000_02F8CE_003B19_000000_02F8CF_006691_000000_02F8D0_003B08_000000,
  0x02F8D1_003AE4_000000_02F8D2_005192_000000_02F8D3_005195_000000_02F8D4_006700_000000,
  0x02F8D5_00669C_000000_02F8D6_0080AD_000000_02F8D7_0043D9_000000_02F8D8_006717_000000,
  0x02F8D9_00671B_000000_02F8DA_006721_000000_02F8DB_00675E_000000_02F8DC_006753_000000,
  0x02F8DD_0233C3_000000_02F8DE_003B49_000000_02F8DF_0067FA_000000_02F8E0_006785_000000,
  0x02F8E1_006852_000000_02F8E2_006885_000000_02F8E3_02346D_000000_02F8E4_00688E_000000,
  0x02F8E5_00681F_000000_02F8E6_006914_000000_02F8E7_003B9D_000000_02F8E8_006942_000000,
  0x02F8E9_0069A3_000000_02F8EA_0069EA_000000_02F8EB_006AA8_000000_02F8EC_0236A3_000000,
  0x02F8ED_006ADB_000000_02F8EE_003C18_000000_02F8EF_006B21_000000_02F8F0_0238A7_000000,
  0x02F8F1_006B54_000000_02F8F2_003C4E_000000_02F8F3_006B72_000000_02F8F4_006B9F_000000,
  0x02F8F5_006BBA_000000_02F8F6_006BBB_000000_02F8F7_023A8D_000000_02F8F8_021D0B_000000,
  0x02F8F9_023AFA_000000_02F8FA_006C4E_000000_02F8FB_023CBC_000000_02F8FC_006CBF_000000,
  0x02F8FD_006CCD_000000_02F8FE_006C67_000000_02F8FF_006D16_000000_02F900_006D3E_000000,
  0x02F901_006D77_000000_02F902_006D41_000000_02F903_006D69_000000_02F904_006D78_000000,
  0x02F905_006D85_000000_02F906_023D1E_000000_02F907_006D34_000000_02F908_006E2F_000000,
  0x02F909_006E6E_000000_02F90A_003D33_000000_02F90B_006ECB_000000_02F90C_006EC7_000000,
  0x02F90D_023ED1_000000_02F90E_006DF9_000000_02F90F_006F6E_000000_02F910_023F5E_000000,
  0x02F911_023F8E_000000_02F912_006FC6_000000_02F913_007039_000000_02F914_00701E_000000,
  0x02F915_00701B_000000_02F916_003D96_000000_02F917_00704A_000000_02F918_00707D_000000,
  0x02F919_007077_000000_02F91A_0070AD_000000_02F91B_020525_000000_02F91C_007145_000000,
  0x02F91D_024263_000000_02F91E_00719C_000000_02F91F_0243AB_000000_02F920_007228_000000,
  0x02F921_007235_000000_02F922_007250_000000_02F923_024608_000000_02F924_007280_000000,
  0x02F925_007295_000000_02F926_024735_000000_02F927_024814_000000_02F928_00737A_000000,
  0x02F929_00738B_000000_02F92A_003EAC_000000_02F92B_0073A5_000000_02F92C_003EB8_000000,
  0x02F92D_003EB8_000000_02F92E_007447_000000_02F92F_00745C_000000_02F930_007471_000000,
  0x02F931_007485_000000_02F932_0074CA_000000_02F933_003F1B_000000_02F934_007524_000000,
  0x02F935_024C36_000000_02F936_00753E_000000_02F937_024C92_000000_02F938_007570_000000,
  0x02F939_02219F_000000_02F93A_007610_000000_02F93B_024FA1_000000_02F93C_024FB8_000000,
  0x02F93D_025044_000000_02F93E_003FFC_000000_02F93F_004008_000000_02F940_0076F4_000000,
  0x02F941_0250F3_000000_02F942_0250F2_000000_02F943_025119_000000_02F944_025133_000000,
  0x02F945_00771E_000000_02F946_00771F_000000_02F947_00771F_000000_02F948_00774A_000000,
  0x02F949_004039_000000_02F94A_00778B_000000_02F94B_004046_000000_02F94C_004096_000000,
  0x02F94D_02541D_000000_02F94E_00784E_000000_02F94F_00788C_000000_02F950_0078CC_000000,
  0x02F951_0040E3_000000_02F952_025626_000000_02F953_007956_000000_02F954_02569A_000000,
  0x02F955_0256C5_000000_02F956_00798F_000000_02F957_0079EB_000000_02F958_00412F_000000,
  0x02F959_007A40_000000_02F95A_007A4A_000000_02F95B_007A4F_000000_02F95C_02597C_000000,
  0x02F95D_025AA7_000000_02F95E_025AA7_000000_02F95F_007AEE_000000_02F960_004202_000000,
  0x02F961_025BAB_000000_02F962_007BC6_000000_02F963_007BC9_000000_02F964_004227_000000,
  0x02F965_025C80_000000_02F966_007CD2_000000_02F967_0042A0_000000_02F968_007CE8_000000,
  0x02F969_007CE3_000000_02F96A_007D00_000000_02F96B_025F86_000000_02F96C_007D63_000000,
  0x02F96D_004301_000000_02F96E_007DC7_000000_02F96F_007E02_000000_02F970_007E45_000000,
  0x02F971_004334_000000_02F972_026228_000000_02F973_026247_000000_02F974_004359_000000,
  0x02F975_0262D9_000000_02F976_007F7A_000000_02F977_02633E_000000_02F978_007F95_000000,
  0x02F979_007FFA_000000_02F97A_008005_000000_02F97B_0264DA_000000_02F97C_026523_000000,
  0x02F97D_008060_000000_02F97E_0265A8_000000_02F97F_008070_000000_02F980_02335F_000000,
  0x02F981_0043D5_000000_02F982_0080B2_000000_02F983_008103_000000_02F984_00440B_000000,
  0x02F985_00813E_000000_02F986_005AB5_000000_02F987_0267A7_000000_02F988_0267B5_000000,
  0x02F989_023393_000000_02F98A_02339C_000000_02F98B_008201_000000_02F98C_008204_000000,
  0x02F98D_008F9E_000000_02F98E_00446B_000000_02F98F_008291_000000_02F990_00828B_000000,
  0x02F991_00829D_000000_02F992_0052B3_000000_02F993_0082B1_000000_02F994_0082B3_000000,
  0x02F995_0082BD_000000_02F996_0082E6_000000_02F997_026B3C_000000_02F998_0082E5_000000,
  0x02F999_00831D_000000_02F99A_008363_000000_02F99B_0083AD_000000_02F99C_008323_000000,
  0x02F99D_0083BD_000000_02F99E_0083E7_000000_02F99F_008457_000000_02F9A0_008353_000000,
  0x02F9A1_0083CA_000000_02F9A2_0083CC_000000_02F9A3_0083DC_000000_02F9A4_026C36_000000,
  0x02F9A5_026D6B_000000_02F9A6_026CD5_000000_02F9A7_00452B_000000_02F9A8_0084F1_000000,
  0x02F9A9_0084F3_000000_02F9AA_008516_000000_02F9AB_0273CA_000000_02F9AC_008564_000000,
  0x02F9AD_026F2C_000000_02F9AE_00455D_000000_02F9AF_004561_000000_02F9B0_026FB1_000000,
  0x02F9B1_0270D2_000000_02F9B2_00456B_000000_02F9B3_008650_000000_02F9B4_00865C_000000,
  0x02F9B5_008667_000000_02F9B6_008669_000000_02F9B7_0086A9_000000_02F9B8_008688_000000,
  0x02F9B9_00870E_000000_02F9BA_0086E2_000000_02F9BB_008779_000000_02F9BC_008728_000000,
  0x02F9BD_00876B_000000_02F9BE_008786_000000_02F9BF_0045D7_000000_02F9C0_0087E1_000000,
  0x02F9C1_008801_000000_02F9C2_0045F9_000000_02F9C3_008860_000000_02F9C4_008863_000000,
  0x02F9C5_027667_000000_02F9C6_0088D7_000000_02F9C7_0088DE_000000_02F9C8_004635_000000,
  0x02F9C9_0088FA_000000_02F9CA_0034BB_000000_02F9CB_0278AE_000000_02F9CC_027966_000000,
  0x02F9CD_0046BE_000000_02F9CE_0046C7_000000_02F9CF_008AA0_000000_02F9D0_008AED_000000,
  0x02F9D1_008B8A_000000_02F9D2_008C55_000000_02F9D3_027CA8_000000_02F9D4_008CAB_000000,
  0x02F9D5_008CC1_000000_02F9D6_008D1B_000000_02F9D7_008D77_000000_02F9D8_027F2F_000000,
  0x02F9D9_020804_000000_02F9DA_008DCB_000000_02F9DB_008DBC_000000_02F9DC_008DF0_000000,
  0x02F9DD_0208DE_000000_02F9DE_008ED4_000000_02F9DF_008F38_000000_02F9E0_0285D2_000000,
  0x02F9E1_0285ED_000000_02F9E2_009094_000000_02F9E3_0090F1_000000_02F9E4_009111_000000,
  0x02F9E5_02872E_000000_02F9E6_00911B_000000_02F9E7_009238_000000_02F9E8_0092D7_000000,
  0x02F9E9_0092D8_000000_02F9EA_00927C_000000_02F9EB_0093F9_000000_02F9EC_009415_000000,
  0x02F9ED_028BFA_000000_02F9EE_00958B_000000_02F9EF_004995_000000_02F9F0_0095B7_000000,
  0x02F9F1_028D77_000000_02F9F2_0049E6_000000_02F9F3_0096C3_000000_02F9F4_005DB2_000000,
  0x02F9F5_009723_000000_02F9F6_029145_000000_02F9F7_02921A_000000_02F9F8_004A6E_000000,
  0x02F9F9_004A76_000000_02F9FA_0097E0_000000_02F9FB_02940A_000000_02F9FC_004AB2_000000,
  0x02F9FD_029496_000000_02F9FE_00980B_000000_02F9FF_00980B_000000_02FA00_009829_000000,
  0x02FA01_0295B6_000000_02FA02_0098E2_000000_02FA03_004B33_000000_02FA04_009929_000000,
  0x02FA05_0099A7_000000_02FA06_0099C2_000000_02FA07_0099FE_000000_02FA08_004BCE_000000,
  0x02FA09_029B30_000000_02FA0A_009B12_000000_02FA0B_009C40_000000_02FA0C_009CFD_000000,
  0x02FA0D_004CCE_000000_02FA0E_004CED_000000_02FA0F_009D67_000000_02FA10_02A0CE_000000,
  0x02FA11_004CF8_000000_02FA12_02A105_000000_02FA13_02A20E_000000_02FA14_02A291_000000,
  0x02FA15_009EBB_000000_02FA16_004D56_000000_02FA17_009EF9_000000_02FA18_009EFE_000000,
  0x02FA19_009F05_000000_02FA1A_009F0F_000000_02FA1B_009F16_000000_02FA1C_009F3B_000000,
  0x02FA1D_02A600_000000]

/-- Splits the first part of a decomposition further, at most `fuel` times; the second part never
    splits. -/
def decomposeSteps : Nat → Nat → List Nat
  | 0, n => [n]
  | fuel + 1, n =>
    match lookupSorted n decompositionSteps with
    | none => [n]
    | some (a, 0) => decomposeSteps fuel a
    | some (a, b) => decomposeSteps fuel a ++ [b]

/-- The parts of a Hangul syllable: a leading consonant, a vowel and, unless it is open, a trailing
    consonant. -/
def decomposeHangul (n : Nat) : List Nat :=
  let index := n - 0xAC00
  let leading := 0x1100 + index / 588
  let vowel := 0x1161 + index % 588 / 28
  if index % 28 = 0 then [leading, vowel] else [leading, vowel, 0x11A7 + index % 28]

/-- The canonical decomposition of a code point. No chain of splits is longer than four. -/
def decompose (n : Nat) : List Nat :=
  if 0xAC00 ≤ n && n ≤ 0xD7A3 then decomposeHangul n else decomposeSteps 4 n

end Verdict.Unicode
