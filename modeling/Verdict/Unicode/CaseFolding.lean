import Verdict.Unicode.RangeTable

/-!
# Case folding

* `fold`: the simple case folding of a code point -- the one code point that stands for all case
  variants of it;
* `caseVariants`: the code points with the same folding, the code point itself among them.
-/

namespace Verdict.Unicode

/-- Code points that fold to another one, each with the code point it folds to; a numeral lists up
    to six pairs, six hexadecimal digits a code point. -/
def foldPairs : List (Nat × Nat) := unpackRows [
  0x000041_000061_000042_000062_000043_000063_000044_000064_000045_000065_000046_000066,
  0x000047_000067_000048_000068_000049_000069_00004A_00006A_00004B_00006B_00004C_00006C,
  0x00004D_00006D_00004E_00006E_00004F_00006F_000050_000070_000051_000071_000052_000072,
  0x000053_000073_000054_000074_000055_000075_000056_000076_000057_000077_000058_000078,
  0x000059_000079_00005A_00007A_0000B5_0003BC_0000C0_0000E0_0000C1_0000E1_0000C2_0000E2,
  0x0000C3_0000E3_0000C4_0000E4_0000C5_0000E5_0000C6_0000E6_0000C7_0000E7_0000C8_0000E8,
  0x0000C9_0000E9_0000CA_0000EA_0000CB_0000EB_0000CC_0000EC_0000CD_0000ED_0000CE_0000EE,
  0x0000CF_0000EF_0000D0_0000F0_0000D1_0000F1_0000D2_0000F2_0000D3_0000F3_0000D4_0000F4,
  0x0000D5_0000F5_0000D6_0000F6_0000D8_0000F8_0000D9_0000F9_0000DA_0000FA_0000DB_0000FB,
  0x0000DC_0000FC_0000DD_0000FD_0000DE_0000FE_000100_000101_000102_000103_000104_000105,
  0x000106_000107_000108_000109_00010A_00010B_00010C_00010D_00010E_00010F_000110_000111,
  0x000112_000113_000114_000115_000116_000117_000118_000119_00011A_00011B_00011C_00011D,
  0x00011E_00011F_000120_000121_000122_000123_000124_000125_000126_000127_000128_000129,
  0x00012A_00012B_00012C_00012D_00012E_00012F_000132_000133_000134_000135_000136_000137,
  0x000139_00013A_00013B_00013C_00013D_00013E_00013F_000140_000141_000142_000143_000144,
  0x000145_000146_000147_000148_00014A_00014B_00014C_00014D_00014E_00014F_000150_000151,
  0x000152_000153_000154_000155_000156_000157_000158_000159_00015A_00015B_00015C_00015D,
  0x00015E_00015F_000160_000161_000162_000163_000164_000165_000166_000167_000168_000169,
  0x00016A_00016B_00016C_00016D_00016E_00016F_000170_000171_000172_000173_000174_000175,
  0x000176_000177_000178_0000FF_000179_00017A_00017B_00017C_00017D_00017E_00017F_000073,
  0x000181_000253_000182_000183_000184_000185_000186_000254_000187_000188_000189_000256,
  0x00018A_000257_00018B_00018C_00018E_0001DD_00018F_000259_000190_00025B_000191_000192,
  0x000193_000260_000194_000263_000196_000269_000197_000268_000198_000199_00019C_00026F,
  0x00019D_000272_00019F_000275_0001A0_0001A1_0001A2_0001A3_0001A4_0001A5_0001A6_000280,
  0x0001A7_0001A8_0001A9_000283_0001AC_0001AD_0001AE_000288_0001AF_0001B0_0001B1_00028A,
  0x0001B2_00028B_0001B3_0001B4_0001B5_0001B6_0001B7_000292_0001B8_0001B9_0001BC_0001BD,
  0x0001C4_0001C6_0001C5_0001C6_0001C7_0001C9_0001C8_0001C9_0001CA_0001CC_0001CB_0001CC,
  0x0001CD_0001CE_0001CF_0001D0_0001D1_0001D2_0001D3_0001D4_0001D5_0001D6_0001D7_0001D8,
  0x0001D9_0001DA_0001DB_0001DC_0001DE_0001DF_0001E0_0001E1_0001E2_0001E3_0001E4_0001E5,
  0x0001E6_0001E7_0001E8_0001E9_0001EA_0001EB_0001EC_0001ED_0001EE_0001EF_0001F1_0001F3,
  0x0001F2_0001F3_0001F4_0001F5_0001F6_000195_0001F7_0001BF_0001F8_0001F9_0001FA_0001FB,
  0x0001FC_0001FD_0001FE_0001FF_000200_000201_000202_000203_000204_000205_000206_000207,
  0x000208_000209_00020A_00020B_00020C_00020D_00020E_00020F_000210_000211_000212_000213,
  0x000214_000215_000216_000217_000218_000219_00021A_00021B_00021C_00021D_00021E_00021F,
  0x000220_00019E_000222_000223_000224_000225_000226_000227_000228_000229_00022A_00022B,
  0x00022C_00022D_00022E_00022F_000230_000231_000232_000233_00023A_002C65_00023B_00023C,
  0x00023D_00019A_00023E_002C66_000241_000242_000243_000180_000244_000289_000245_00028C,
  0x000246_000247_000248_000249_00024A_00024B_00024C_00024D_00024E_00024F_000345_0003B9,
  0x000370_000371_000372_000373_000376_000377_00037F_0003F3_000386_0003AC_000388_0003AD,
  0x000389_0003AE_00038A_0003AF_00038C_0003CC_00038E_0003CD_00038F_0003CE_000391_0003B1,
  0x000392_0003B2_000393_0003B3_000394_0003B4_000395_0003B5_000396_0003B6_000397_0003B7,
  0x000398_0003B8_000399_0003B9_00039A_0003BA_00039B_0003BB_00039C_0003BC_00039D_0003BD,
  0x00039E_0003BE_00039F_0003BF_0003A0_0003C0_0003A1_0003C1_0003A3_0003C3_0003A4_0003C4,
  0x0003A5_0003C5_0003A6_0003C6_0003A7_0003C7_0003A8_0003C8_0003A9_0003C9_0003AA_0003CA,
  0x0003AB_0003CB_0003C2_0003C3_0003CF_0003D7_0003D0_0003B2_0003D1_0003B8_0003D5_0003C6,
  0x0003D6_0003C0_0003D8_0003D9_0003DA_0003DB_0003DC_0003DD_0003DE_0003DF_0003E0_0003E1,
  0x0003E2_0003E3_0003E4_0003E5_0003E6_0003E7_0003E8_0003E9_0003EA_0003EB_0003EC_0003ED,
  0x0003EE_0003EF_0003F0_0003BA_0003F1_0003C1_0003F4_0003B8_0003F5_0003B5_0003F7_0003F8,
  0x0003F9_0003F2_0003FA_0003FB_0003FD_00037B_0003FE_00037C_0003FF_00037D_000400_000450,
  0x000401_000451_000402_000452_000403_000453_000404_000454_000405_000455_000406_000456,
  0x000407_000457_000408_000458_000409_000459_00040A_00045A_00040B_00045B_00040C_00045C,
  0x00040D_00045D_00040E_00045E_00040F_00045F_000410_000430_000411_000431_000412_000432,
  0x000413_000433_000414_000434_000415_000435_000416_000436_000417_000437_000418_000438,
  0x000419_000439_00041A_00043A_00041B_00043B_00041C_00043C_00041D_00043D_00041E_00043E,
  0x00041F_00043F_000420_000440_000421_000441_000422_000442_000423_000443_000424_000444,
  0x000425_000445_000426_000446_000427_000447_000428_000448_000429_000449_00042A_00044A,
  0x00042B_00044B_00042C_00044C_00042D_00044D_00042E_00044E_00042F_00044F_000460_000461,
  0x000462_000463_000464_000465_000466_000467_000468_000469_00046A_00046B_00046C_00046D,
  0x00046E_00046F_000470_000471_000472_000473_000474_000475_000476_000477_000478_000479,
  0x00047A_00047B_00047C_00047D_00047E_00047F_000480_000481_00048A_00048B_00048C_00048D,
  0x00048E_00048F_000490_000491_000492_000493_000494_000495_000496_000497_000498_000499,
  0x00049A_00049B_00049C_00049D_00049E_00049F_0004A0_0004A1_0004A2_0004A3_0004A4_0004A5,
  0x0004A6_0004A7_0004A8_0004A9_0004AA_0004AB_0004AC_0004AD_0004AE_0004AF_0004B0_0004B1,
  0x0004B2_0004B3_0004B4_0004B5_0004B6_0004B7_0004B8_0004B9_0004BA_0004BB_0004BC_0004BD,
  0x0004BE_0004BF_0004C0_0004CF_0004C1_0004C2_0004C3_0004C4_0004C5_0004C6_0004C7_0004C8,
  0x0004C9_0004CA_0004CB_0004CC_0004CD_0004CE_0004D0_0004D1_0004D2_0004D3_0004D4_0004D5,
  0x0004D6_0004D7_0004D8_0004D9_0004DA_0004DB_0004DC_0004DD_0004DE_0004DF_0004E0_0004E1,
  0x0004E2_0004E3_0004E4_0004E5_0004E6_0004E7_0004E8_0004E9_0004EA_0004EB_0004EC_0004ED,
  0x0004EE_0004EF_0004F0_0004F1_0004F2_0004F3_0004F4_0004F5_0004F6_0004F7_0004F8_0004F9,
  0x0004FA_0004FB_0004FC_0004FD_0004FE_0004FF_000500_000501_000502_000503_000504_000505,
  0x000506_000507_000508_000509_00050A_00050B_00050C_00050D_00050E_00050F_000510_000511,
  0x000512_000513_000514_000515_000516_000517_000518_000519_00051A_00051B_00051C_00051D,
  0x00051E_00051F_000520_000521_000522_000523_000524_000525_000526_000527_000528_000529,
  0x00052A_00052B_00052C_00052D_00052E_00052F_000531_000561_000532_000562_000533_000563,
  0x000534_000564_000535_000565_000536_000566_000537_000567_000538_000568_000539_000569,
  0x00053A_00056A_00053B_00056B_00053C_00056C_00053D_00056D_00053E_00056E_00053F_00056F,
  0x000540_000570_000541_000571_000542_000572_000543_000573_000544_000574_000545_000575,
  0x000546_000576_000547_000577_000548_000578_000549_000579_00054A_00057A_00054B_00057B,
  0x00054C_00057C_00054D_00057D_00054E_00057E_00054F_00057F_000550_000580_000551_000581,
  0x000552_000582_000553_000583_000554_000584_000555_000585_000556_000586_0010A0_002D00,
  0x0010A1_002D01_0010A2_002D02_0010A3_002D03_0010A4_002D04_0010A5_002D05_0010A6_002D06,
  0x0010A7_002D07_0010A8_002D08_0010A9_002D09_0010AA_002D0A_0010AB_002D0B_0010AC_002D0C,
  0x0010AD_002D0D_0010AE_002D0E_0010AF_002D0F_0010B0_002D10_0010B1_002D11_0010B2_002D12,
  0x0010B3_002D13_0010B4_002D14_0010B5_002D15_0010B6_002D16_0010B7_002D17_0010B8_002D18,
  0x0010B9_002D19_0010BA_002D1A_0010BB_002D1B_0010BC_002D1C_0010BD_002D1D_0010BE_002D1E,
  0x0010BF_002D1F_0010C0_002D20_0010C1_002D21_0010C2_002D22_0010C3_002D23_0010C4_002D24,
  0x0010C5_002D25_0010C7_002D27_0010CD_002D2D_0013F8_0013F0_0013F9_0013F1_0013FA_0013F2,
  0x0013FB_0013F3_0013FC_0013F4_0013FD_0013F5_001C80_000432_001C81_000434_001C82_00043E,
  0x001C83_000441_001C84_000442_001C85_000442_001C86_00044A_001C87_000463_001C88_00A64B,
  0x001C89_001C8A_001C90_0010D0_001C91_0010D1_001C92_0010D2_001C93_0010D3_001C94_0010D4,
  0x001C95_0010D5_001C96_0010D6_001C97_0010D7_001C98_0010D8_001C99_0010D9_001C9A_0010DA,
  0x001C9B_0010DB_001C9C_0010DC_001C9D_0010DD_001C9E_0010DE_001C9F_0010DF_001CA0_0010E0,
  0x001CA1_0010E1_001CA2_0010E2_001CA3_0010E3_001CA4_0010E4_001CA5_0010E5_001CA6_0010E6,
  0x001CA7_0010E7_001CA8_0010E8_001CA9_0010E9_001CAA_0010EA_001CAB_0010EB_001CAC_0010EC,
  0x001CAD_0010ED_001CAE_0010EE_001CAF_0010EF_001CB0_0010F0_001CB1_0010F1_001CB2_0010F2,
  0x001CB3_0010F3_001CB4_0010F4_001CB5_0010F5_001CB6_0010F6_001CB7_0010F7_001CB8_0010F8,
  0x001CB9_0010F9_001CBA_0010FA_001CBD_0010FD_001CBE_0010FE_001CBF_0010FF_001E00_001E01,
  0x001E02_001E03_001E04_001E05_001E06_001E07_001E08_001E09_001E0A_001E0B_001E0C_001E0D,
  0x001E0E_001E0F_001E10_001E11_001E12_001E13_001E14_001E15_001E16_001E17_001E18_001E19,
  0x001E1A_001E1B_001E1C_001E1D_001E1E_001E1F_001E20_001E21_001E22_001E23_001E24_001E25,
  0x001E26_001E27_001E28_001E29_001E2A_001E2B_001E2C_001E2D_001E2E_001E2F_001E30_001E31,
  0x001E32_001E33_001E34_001E35_001E36_001E37_001E38_001E39_001E3A_001E3B_001E3C_001E3D,
  0x001E3E_001E3F_001E40_001E41_001E42_001E43_001E44_001E45_001E46_001E47_001E48_001E49,
  0x001E4A_001E4B_001E4C_001E4D_001E4E_001E4F_001E50_001E51_001E52_001E53_001E54_001E55,
  0x001E56_001E57_001E58_001E59_001E5A_001E5B_001E5C_001E5D_001E5E_001E5F_001E60_001E61,
  0x001E62_001E63_001E64_001E65_001E66_001E67_001E68_001E69_001E6A_001E6B_001E6C_001E6D,
  0x001E6E_001E6F_001E70_001E71_001E72_001E73_001E74_001E75_001E76_001E77_001E78_001E79,
  0x001E7A_001E7B_001E7C_001E7D_001E7E_001E7F_001E80_001E81_001E82_001E83_001E84_001E85,
  0x001E86_001E87_001E88_001E89_001E8A_001E8B_001E8C_001E8D_001E8E_001E8F_001E90_001E91,
  0x001E92_001E93_001E94_001E95_001E9B_001E61_001E9E_0000DF_001EA0_001EA1_001EA2_001EA3,
  0x001EA4_001EA5_001EA6_001EA7_001EA8_001EA9_001EAA_001EAB_001EAC_001EAD_001EAE_001EAF,
  0x001EB0_001EB1_001EB2_001EB3_001EB4_001EB5_001EB6_001EB7_001EB8_001EB9_001EBA_001EBB,
  0x001EBC_001EBD_001EBE_001EBF_001EC0_001EC1_001EC2_001EC3_001EC4_001EC5_001EC6_001EC7,
  0x001EC8_001EC9_001ECA_001ECB_001ECC_001ECD_001ECE_001ECF_001ED0_001ED1_001ED2_001ED3,
  0x001ED4_001ED5_001ED6_001ED7_001ED8_001ED9_001EDA_001EDB_001EDC_001EDD_001EDE_001EDF,
  0x001EE0_001EE1_001EE2_001EE3_001EE4_001EE5_001EE6_001EE7_001EE8_001EE9_001EEA_001EEB,
  0x001EEC_001EED_001EEE_001EEF_001EF0_001EF1_001EF2_001EF3_001EF4_001EF5_001EF6_001EF7,
  0x001EF8_001EF9_001EFA_001EFB_001EFC_001EFD_001EFE_001EFF_001F08_001F00_001F09_001F01,
  0x001F0A_001F02_001F0B_001F03_001F0C_001F04_001F0D_001F05_001F0E_001F06_001F0F_001F07,
  0x001F18_001F10_001F19_001F11_001F1A_001F12_001F1B_001F13_001F1C_001F14_001F1D_001F15,
  0x001F28_001F20_001F29_001F21_001F2A_001F22_001F2B_001F23_001F2C_001F24_001F2D_001F25,
  0x001F2E_001F26_001F2F_001F27_001F38_001F30_001F39_001F31_001F3A_001F32_001F3B_001F33,
  0x001F3C_001F34_001F3D_001F35_001F3E_001F36_001F3F_001F37_001F48_001F40_001F49_001F41,
  0x001F4A_001F42_001F4B_001F43_001F4C_001F44_001F4D_001F45_001F59_001F51_001F5B_001F53,
  0x001F5D_001F55_001F5F_001F57_001F68_001F60_001F69_001F61_001F6A_001F62_001F6B_001F63,
  0x001F6C_001F64_001F6D_001F65_001F6E_001F66_001F6F_001F67_001F88_001F80_001F89_001F81,
  0x001F8A_001F82_001F8B_001F83_001F8C_001F84_001F8D_001F85_001F8E_001F86_001F8F_001F87,
  0x001F98_001F90_001F99_001F91_001F9A_001F92_001F9B_001F93_001F9C_001F94_001F9D_001F95,
  0x001F9E_001F96_001F9F_001F97_001FA8_001FA0_001FA9_001FA1_001FAA_001FA2_001FAB_001FA3,
  0x001FAC_001FA4_001FAD_001FA5_001FAE_001FA6_001FAF_001FA7_001FB8_001FB0_001FB9_001FB1,
  0x001FBA_001F70_001FBB_001F71_001FBC_001FB3_001FBE_0003B9_001FC8_001F72_001FC9_001F73,
  0x001FCA_001F74_001FCB_001F75_001FCC_001FC3_001FD3_000390_001FD8_001FD0_001FD9_001FD1,
  0x001FDA_001F76_001FDB_001F77_001FE3_0003B0_001FE8_001FE0_001FE9_001FE1_001FEA_001F7A,
  0x001FEB_001F7B_001FEC_001FE5_001FF8_001F78_001FF9_001F79_001FFA_001F7C_001FFB_001F7D,
  0x001FFC_001FF3_002126_0003C9_00212A_00006B_00212B_0000E5_002132_00214E_002160_002170,
  0x002161_002171_002162_002172_002163_002173_002164_002174_002165_002175_002166_002176,
  0x002167_002177_002168_002178_002169_002179_00216A_00217A_00216B_00217B_00216C_00217C,
  0x00216D_00217D_00216E_00217E_00216F_00217F_002183_002184_0024B6_0024D0_0024B7_0024D1,
  0x0024B8_0024D2_0024B9_0024D3_0024BA_0024D4_0024BB_0024D5_0024BC_0024D6_0024BD_0024D7,
  0x0024BE_0024D8_0024BF_0024D9_0024C0_0024DA_0024C1_0024DB_0024C2_0024DC_0024C3_0024DD,
  0x0024C4_0024DE_0024C5_0024DF_0024C6_0024E0_0024C7_0024E1_0024C8_0024E2_0024C9_0024E3,
  0x0024CA_0024E4_0024CB_0024E5_0024CC_0024E6_0024CD_0024E7_0024CE_0024E8_0024CF_0024E9,
  0x002C00_002C30_002C01_002C31_002C02_002C32_002C03_002C33_002C04_002C34_002C05_002C35,
  0x002C06_002C36_002C07_002C37_002C08_002C38_002C09_002C39_002C0A_002C3A_002C0B_002C3B,
  0x002C0C_002C3C_002C0D_002C3D_002C0E_002C3E_002C0F_002C3F_002C10_002C40_002C11_002C41,
  0x002C12_002C42_002C13_002C43_002C14_002C44_002C15_002C45_002C16_002C46_002C17_002C47,
  0x002C18_002C48_002C19_002C49_002C1A_002C4A_002C1B_002C4B_002C1C_002C4C_002C1D_002C4D,
  0x002C1E_002C4E_002C1F_002C4F_002C20_002C50_002C21_002C51_002C22_002C52_002C23_002C53,
  0x002C24_002C54_002C25_002C55_002C26_002C56_002C27_002C57_002C28_002C58_002C29_002C59,
  0x002C2A_002C5A_002C2B_002C5B_002C2C_002C5C_002C2D_002C5D_002C2E_002C5E_002C2F_002C5F,
  0x002C60_002C61_002C62_00026B_002C63_001D7D_002C64_00027D_002C67_002C68_002C69_002C6A,
  0x002C6B_002C6C_002C6D_000251_002C6E_000271_002C6F_000250_002C70_000252_002C72_002C73,
  0x002C75_002C76_002C7E_00023F_002C7F_000240_002C80_002C81_002C82_002C83_002C84_002C85,
  0x002C86_002C87_002C88_002C89_002C8A_002C8B_002C8C_002C8D_002C8E_002C8F_002C90_002C91,
  0x002C92_002C93_002C94_002C95_002C96_002C97_002C98_002C99_002C9A_002C9B_002C9C_002C9D,
  0x002C9E_002C9F_002CA0_002CA1_002CA2_002CA3_002CA4_002CA5_002CA6_002CA7_002CA8_002CA9,
  0x002CAA_002CAB_002CAC_002CAD_002CAE_002CAF_002CB0_002CB1_002CB2_002CB3_002CB4_002CB5,
  0x002CB6_002CB7_002CB8_002CB9_002CBA_002CBB_002CBC_002CBD_002CBE_002CBF_002CC0_002CC1,
  0x002CC2_002CC3_002CC4_002CC5_002CC6_002CC7_002CC8_002CC9_002CCA_002CCB_002CCC_002CCD,
  0x002CCE_002CCF_002CD0_002CD1_002CD2_002CD3_002CD4_002CD5_002CD6_002CD7_002CD8_002CD9,
  0x002CDA_002CDB_002CDC_002CDD_002CDE_002CDF_002CE0_002CE1_002CE2_002CE3_002CEB_002CEC,
  0x002CED_002CEE_002CF2_002CF3_00A640_00A641_00A642_00A643_00A644_00A645_00A646_00A647,
  0x00A648_00A649_00A64A_00A64B_00A64C_00A64D_00A64E_00A64F_00A650_00A651_00A652_00A653,
  0x00A654_00A655_00A656_00A657_00A658_00A659_00A65A_00A65B_00A65C_00A65D_00A65E_00A65F,
  0x00A660_00A661_00A662_00A663_00A664_00A665_00A666_00A667_00A668_00A669_00A66A_00A66B,
  0x00A66C_00A66D_00A680_00A681_00A682_00A683_00A684_00A685_00A686_00A687_00A688_00A689,
  0x00A68A_00A68B_00A68C_00A68D_00A68E_00A68F_00A690_00A691_00A692_00A693_00A694_00A695,
  0x00A696_00A697_00A698_00A699_00A69A_00A69B_00A722_00A723_00A724_00A725_00A726_00A727,
  0x00A728_00A729_00A72A_00A72B_00A72C_00A72D_00A72E_00A72F_00A732_00A733_00A734_00A735,
  0x00A736_00A737_00A738_00A739_00A73A_00A73B_00A73C_00A73D_00A73E_00A73F_00A740_00A741,
  0x00A742_00A743_00A744_00A745_00A746_00A747_00A748_00A749_00A74A_00A74B_00A74C_00A74D,
  0x00A74E_00A74F_00A750_00A751_00A752_00A753_00A754_00A755_00A756_00A757_00A758_00A759,
  0x00A75A_00A75B_00A75C_00A75D_00A75E_00A75F_00A760_00A761_00A762_00A763_00A764_00A765,
  0x00A766_00A767_00A768_00A769_00A76A_00A76B_00A76C_00A76D_00A76E_00A76F_00A779_00A77A,
  0x00A77B_00A77C_00A77D_001D79_00A77E_00A77F_00A780_00A781_00A782_00A783_00A784_00A785,
  0x00A786_00A787_00A78B_00A78C_00A78D_000265_00A790_00A791_00A792_00A793_00A796_00A797,
  0x00A798_00A799_00A79A_00A79B_00A79C_00A79D_00A79E_00A79F_00A7A0_00A7A1_00A7A2_00A7A3,
  0x00A7A4_00A7A5_00A7A6_00A7A7_00A7A8_00A7A9_00A7AA_000266_00A7AB_00025C_00A7AC_000261,
  0x00A7AD_00026C_00A7AE_00026A_00A7B0_00029E_00A7B1_000287_00A7B2_00029D_00A7B3_00AB53,
  0x00A7B4_00A7B5_00A7B6_00A7B7_00A7B8_00A7B9_00A7BA_00A7BB_00A7BC_00A7BD_00A7BE_00A7BF,
  0x00A7C0_00A7C1_00A7C2_00A7C3_00A7C4_00A794_00A7C5_000282_00A7C6_001D8E_00A7C7_00A7C8,
  0x00A7C9_00A7CA_00A7CB_000264_00A7CC_00A7CD_00A7D0_00A7D1_00A7D6_00A7D7_00A7D8_00A7D9,
  0x00A7DA_00A7DB_00A7DC_00019B_00A7F5_00A7F6_00AB70_0013A0_00AB71_0013A1_00AB72_0013A2,
  0x00AB73_0013A3_00AB74_0013A4_00AB75_0013A5_00AB76_0013A6_00AB77_0013A7_00AB78_0013A8,
  0x00AB79_0013A9_00AB7A_0013AA_00AB7B_0013AB_00AB7C_0013AC_00AB7D_0013AD_00AB7E_0013AE,
  0x00AB7F_0013AF_00AB80_0013B0_00AB81_0013B1_00AB82_0013B2_00AB83_0013B3_00AB84_0013B4,
  0x00AB85_0013B5_00AB86_0013B6_00AB87_0013B7_00AB88_0013B8_00AB89_0013B9_00AB8A_0013BA,
  0x00AB8B_0013BB_00AB8C_0013BC_00AB8D_0013BD_00AB8E_0013BE_00AB8F_0013BF_00AB90_0013C0,
  0x00AB91_0013C1_00AB92_0013C2_00AB93_0013C3_00AB94_0013C4_00AB95_0013C5_00AB96_0013C6,
  0x00AB97_0013C7_00AB98_0013C8_00AB99_0013C9_00AB9A_0013CA_00AB9B_0013CB_00AB9C_0013CC,
  0x00AB9D_0013CD_00AB9E_0013CE_00AB9F_0013CF_00ABA0_0013D0_00ABA1_0013D1_00ABA2_0013D2,
  0x00ABA3_0013D3_00ABA4_0013D4_00ABA5_0013D5_00ABA6_0013D6_00ABA7_0013D7_00ABA8_0013D8,
  0x00ABA9_0013D9_00ABAA_0013DA_00ABAB_0013DB_00ABAC_0013DC_00ABAD_0013DD_00ABAE_0013DE,
  0x00ABAF_0013DF_00ABB0_0013E0_00ABB1_0013E1_00ABB2_0013E2_00ABB3_0013E3_00ABB4_0013E4,
  0x00ABB5_0013E5_00ABB6_0013E6_00ABB7_0013E7_00ABB8_0013E8_00ABB9_0013E9_00ABBA_0013EA,
  0x00ABBB_0013EB_00ABBC_0013EC_00ABBD_0013ED_00ABBE_0013EE_00ABBF_0013EF_00FB06_00FB05,
  0x00FF21_00FF41_00FF22_00FF42_00FF23_00FF43_00FF24_00FF44_00FF25_00FF45_00FF26_00FF46,
  0x00FF27_00FF47_00FF28_00FF48_00FF29_00FF49_00FF2A_00FF4A_00FF2B_00FF4B_00FF2C_00FF4C,
  0x00FF2D_00FF4D_00FF2E_00FF4E_00FF2F_00FF4F_00FF30_00FF50_00FF31_00FF51_00FF32_00FF52,
  0x00FF33_00FF53_00FF34_00FF54_00FF35_00FF55_00FF36_00FF56_00FF37_00FF57_00FF38_00FF58,
  0x00FF39_00FF59_00FF3A_00FF5A_010400_010428_010401_010429_010402_01042A_010403_01042B,
  0x010404_01042C_010405_01042D_010406_01042E_010407_01042F_010408_010430_010409_010431,
  0x01040A_010432_01040B_010433_01040C_010434_01040D_010435_01040E_010436_01040F_010437,
  0x010410_010438_010411_010439_010412_01043A_010413_01043B_010414_01043C_010415_01043D,
  0x010416_01043E_010417_01043F_010418_010440_010419_010441_01041A_010442_01041B_010443,
  0x01041C_010444_01041D_010445_01041E_010446_01041F_010447_010420_010448_010421_010449,
  0x010422_01044A_010423_01044B_010424_01044C_010425_01044D_010426_01044E_010427_01044F,
  0x0104B0_0104D8_0104B1_0104D9_0104B2_0104DA_0104B3_0104DB_0104B4_0104DC_0104B5_0104DD,
  0x0104B6_0104DE_0104B7_0104DF_0104B8_0104E0_0104B9_0104E1_0104BA_0104E2_0104BB_0104E3,
  0x0104BC_0104E4_0104BD_0104E5_0104BE_0104E6_0104BF_0104E7_0104C0_0104E8_0104C1_0104E9,
  0x0104C2_0104EA_0104C3_0104EB_0104C4_0104EC_0104C5_0104ED_0104C6_0104EE_0104C7_0104EF,
  0x0104C8_0104F0_0104C9_0104F1_0104CA_0104F2_0104CB_0104F3_0104CC_0104F4_0104CD_0104F5,
  0x0104CE_0104F6_0104CF_0104F7_0104D0_0104F8_0104D1_0104F9_0104D2_0104FA_0104D3_0104FB,
  0x010570_010597_010571_010598_010572_010599_010573_01059A_010574_01059B_010575_01059C,
  0x010576_01059D_010577_01059E_010578_01059F_010579_0105A0_01057A_0105A1_01057C_0105A3,
  0x01057D_0105A4_01057E_0105A5_01057F_0105A6_010580_0105A7_010581_0105A8_010582_0105A9,
  0x010583_0105AA_010584_0105AB_010585_0105AC_010586_0105AD_010587_0105AE_010588_0105AF,
  0x010589_0105B0_01058A_0105B1_01058C_0105B3_01058D_0105B4_01058E_0105B5_01058F_0105B6,
  0x010590_0105B7_010591_0105B8_010592_0105B9_010594_0105BB_010595_0105BC_010C80_010CC0,
  0x010C81_010CC1_010C82_010CC2_010C83_010CC3_010C84_010CC4_010C85_010CC5_010C86_010CC6,
  0x010C87_010CC7_010C88_010CC8_010C89_010CC9_010C8A_010CCA_010C8B_010CCB_010C8C_010CCC,
  0x010C8D_010CCD_010C8E_010CCE_010C8F_010CCF_010C90_010CD0_010C91_010CD1_010C92_010CD2,
  0x010C93_010CD3_010C94_010CD4_010C95_010CD5_010C96_010CD6_010C97_010CD7_010C98_010CD8,
  0x010C99_010CD9_010C9A_010CDA_010C9B_010CDB_010C9C_010CDC_010C9D_010CDD_010C9E_010CDE,
  0x010C9F_010CDF_010CA0_010CE0_010CA1_010CE1_010CA2_010CE2_010CA3_010CE3_010CA4_010CE4,
  0x010CA5_010CE5_010CA6_010CE6_010CA7_010CE7_010CA8_010CE8_010CA9_010CE9_010CAA_010CEA,
  0x010CAB_010CEB_010CAC_010CEC_010CAD_010CED_010CAE_010CEE_010CAF_010CEF_010CB0_010CF0,
  0x010CB1_010CF1_010CB2_010CF2_010D50_010D70_010D51_010D71_010D52_010D72_010D53_010D73,
  0x010D54_010D74_010D55_010D75_010D56_010D76_010D57_010D77_010D58_010D78_010D59_010D79,
  0x010D5A_010D7A_010D5B_010D7B_010D5C_010D7C_010D5D_010D7D_010D5E_010D7E_010D5F_010D7F,
  0x010D60_010D80_010D61_010D81_010D62_010D82_010D63_010D83_010D64_010D84_010D65_010D85,
  0x0118A0_0118C0_0118A1_0118C1_0118A2_0118C2_0118A3_0118C3_0118A4_0118C4_0118A5_0118C5,
  0x0118A6_0118C6_0118A7_0118C7_0118A8_0118C8_0118A9_0118C9_0118AA_0118CA_0118AB_0118CB,
  0x0118AC_0118CC_0118AD_0118CD_0118AE_0118CE_0118AF_0118CF_0118B0_0118D0_0118B1_0118D1,
  0x0118B2_0118D2_0118B3_0118D3_0118B4_0118D4_0118B5_0118D5_0118B6_0118D6_0118B7_0118D7,
  0x0118B8_0118D8_0118B9_0118D9_0118BA_0118DA_0118BB_0118DB_0118BC_0118DC_0118BD_0118DD,
  0x0118BE_0118DE_0118BF_0118DF_016E40_016E60_016E41_016E61_016E42_016E62_016E43_016E63,
  0x016E44_016E64_016E45_016E65_016E46_016E66_016E47_016E67_016E48_016E68_016E49_016E69,
  0x016E4A_016E6A_016E4B_016E6B_016E4C_016E6C_016E4D_016E6D_016E4E_016E6E_016E4F_016E6F,
  0x016E50_016E70_016E51_016E71_016E52_016E72_016E53_016E73_016E54_016E74_016E55_016E75,
  0x016E56_016E76_016E57_016E77_016E58_016E78_016E59_016E79_016E5A_016E7A_016E5B_016E7B,
  0x016E5C_016E7C_016E5D_016E7D_016E5E_016E7E_016E5F_016E7F_01E900_01E922_01E901_01E923,
  0x01E902_01E924_01E903_01E925_01E904_01E926_01E905_01E927_01E906_01E928_01E907_01E929,
  0x01E908_01E92A_01E909_01E92B_01E90A_01E92C_01E90B_01E92D_01E90C_01E92E_01E90D_01E92F,
  0x01E90E_01E930_01E90F_01E931_01E910_01E932_01E911_01E933_01E912_01E934_01E913_01E935,
  0x01E914_01E936_01E915_01E937_01E916_01E938_01E917_01E939_01E918_01E93A_01E919_01E93B,
  0x01E91A_01E93C_01E91B_01E93D_01E91C_01E93E_01E91D_01E93F_01E91E_01E940_01E91F_01E941,
  0x01E920_01E942_01E921_01E943]

/-- The simple case folding of a code point. -/
def fold (n : Nat) : Nat := (lookupSorted n foldPairs).getD n

/-- The code points with the same simple case folding as `n`. -/
def caseVariants (n : Nat) : List Nat :=
  let target := fold n
  target :: foldPairs.filterMap fun (source, image) => if image = target then some source else none

end Verdict.Unicode
