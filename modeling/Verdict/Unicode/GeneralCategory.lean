import Verdict.Unicode.CharClass

/-!
# General categories

One table of code points per general category of version 16.0 of the Unicode character database, the
unions that have names of their own, and `unassigned`, which is what no table holds. Each numeral of
a table lists up to six ranges, first and last code point in six hexadecimal digits each. All tables
of properties, scripts and foldings are of the same version.
-/

namespace Verdict.Unicode.GeneralCategory

/-! ## 1. The categories -/

/-- Category Lu: uppercase letter. -/
def uppercaseLetter : CharClass := .packed [
  0x000041_00005A_0000C0_0000D6_0000D8_0000DE_000100_000100_000102_000102_000104_000104,
  0x000106_000106_000108_000108_00010A_00010A_00010C_00010C_00010E_00010E_000110_000110,
  0x000112_000112_000114_000114_000116_000116_000118_000118_00011A_00011A_00011C_00011C,
  0x00011E_00011E_000120_000120_000122_000122_000124_000124_000126_000126_000128_000128,
  0x00012A_00012A_00012C_00012C_00012E_00012E_000130_000130_000132_000132_000134_000134,
  0x000136_000136_000139_000139_00013B_00013B_00013D_00013D_00013F_00013F_000141_000141,
  0x000143_000143_000145_000145_000147_000147_00014A_00014A_00014C_00014C_00014E_00014E,
  0x000150_000150_000152_000152_000154_000154_000156_000156_000158_000158_00015A_00015A,
  0x00015C_00015C_00015E_00015E_000160_000160_000162_000162_000164_000164_000166_000166,
  0x000168_000168_00016A_00016A_00016C_00016C_00016E_00016E_000170_000170_000172_000172,
  0x000174_000174_000176_000176_000178_000179_00017B_00017B_00017D_00017D_000181_000182,
  0x000184_000184_000186_000187_000189_00018B_00018E_000191_000193_000194_000196_000198,
  0x00019C_00019D_00019F_0001A0_0001A2_0001A2_0001A4_0001A4_0001A6_0001A7_0001A9_0001A9,
  0x0001AC_0001AC_0001AE_0001AF_0001B1_0001B3_0001B5_0001B5_0001B7_0001B8_0001BC_0001BC,
  0x0001C4_0001C4_0001C7_0001C7_0001CA_0001CA_0001CD_0001CD_0001CF_0001CF_0001D1_0001D1,
  0x0001D3_0001D3_0001D5_0001D5_0001D7_0001D7_0001D9_0001D9_0001DB_0001DB_0001DE_0001DE,
  0x0001E0_0001E0_0001E2_0001E2_0001E4_0001E4_0001E6_0001E6_0001E8_0001E8_0001EA_0001EA,
  0x0001EC_0001EC_0001EE_0001EE_0001F1_0001F1_0001F4_0001F4_0001F6_0001F8_0001FA_0001FA,
  0x0001FC_0001FC_0001FE_0001FE_000200_000200_000202_000202_000204_000204_000206_000206,
  0x000208_000208_00020A_00020A_00020C_00020C_00020E_00020E_000210_000210_000212_000212,
  0x000214_000214_000216_000216_000218_000218_00021A_00021A_00021C_00021C_00021E_00021E,
  0x000220_000220_000222_000222_000224_000224_000226_000226_000228_000228_00022A_00022A,
  0x00022C_00022C_00022E_00022E_000230_000230_000232_000232_00023A_00023B_00023D_00023E,
  0x000241_000241_000243_000246_000248_000248_00024A_00024A_00024C_00024C_00024E_00024E,
  0x000370_000370_000372_000372_000376_000376_00037F_00037F_000386_000386_000388_00038A,
  0x00038C_00038C_00038E_00038F_000391_0003A1_0003A3_0003AB_0003CF_0003CF_0003D2_0003D4,
  0x0003D8_0003D8_0003DA_0003DA_0003DC_0003DC_0003DE_0003DE_0003E0_0003E0_0003E2_0003E2,
  0x0003E4_0003E4_0003E6_0003E6_0003E8_0003E8_0003EA_0003EA_0003EC_0003EC_0003EE_0003EE,
  0x0003F4_0003F4_0003F7_0003F7_0003F9_0003FA_0003FD_00042F_000460_000460_000462_000462,
  0x000464_000464_000466_000466_000468_000468_00046A_00046A_00046C_00046C_00046E_00046E,
  0x000470_000470_000472_000472_000474_000474_000476_000476_000478_000478_00047A_00047A,
  0x00047C_00047C_00047E_00047E_000480_000480_00048A_00048A_00048C_00048C_00048E_00048E,
  0x000490_000490_000492_000492_000494_000494_000496_000496_000498_000498_00049A_00049A,
  0x00049C_00049C_00049E_00049E_0004A0_0004A0_0004A2_0004A2_0004A4_0004A4_0004A6_0004A6,
  0x0004A8_0004A8_0004AA_0004AA_0004AC_0004AC_0004AE_0004AE_0004B0_0004B0_0004B2_0004B2,
  0x0004B4_0004B4_0004B6_0004B6_0004B8_0004B8_0004BA_0004BA_0004BC_0004BC_0004BE_0004BE,
  0x0004C0_0004C1_0004C3_0004C3_0004C5_0004C5_0004C7_0004C7_0004C9_0004C9_0004CB_0004CB,
  0x0004CD_0004CD_0004D0_0004D0_0004D2_0004D2_0004D4_0004D4_0004D6_0004D6_0004D8_0004D8,
  0x0004DA_0004DA_0004DC_0004DC_0004DE_0004DE_0004E0_0004E0_0004E2_0004E2_0004E4_0004E4,
  0x0004E6_0004E6_0004E8_0004E8_0004EA_0004EA_0004EC_0004EC_0004EE_0004EE_0004F0_0004F0,
  0x0004F2_0004F2_0004F4_0004F4_0004F6_0004F6_0004F8_0004F8_0004FA_0004FA_0004FC_0004FC,
  0x0004FE_0004FE_000500_000500_000502_000502_000504_000504_000506_000506_000508_000508,
  0x00050A_00050A_00050C_00050C_00050E_00050E_000510_000510_000512_000512_000514_000514,
  0x000516_000516_000518_000518_00051A_00051A_00051C_00051C_00051E_00051E_000520_000520,
  0x000522_000522_000524_000524_000526_000526_000528_000528_00052A_00052A_00052C_00052C,
  0x00052E_00052E_000531_000556_0010A0_0010C5_0010C7_0010C7_0010CD_0010CD_0013A0_0013F5,
  0x001C89_001C89_001C90_001CBA_001CBD_001CBF_001E00_001E00_001E02_001E02_001E04_001E04,
  0x001E06_001E06_001E08_001E08_001E0A_001E0A_001E0C_001E0C_001E0E_001E0E_001E10_001E10,
  0x001E12_001E12_001E14_001E14_001E16_001E16_001E18_001E18_001E1A_001E1A_001E1C_001E1C,
  0x001E1E_001E1E_001E20_001E20_001E22_001E22_001E24_001E24_001E26_001E26_001E28_001E28,
  0x001E2A_001E2A_001E2C_001E2C_001E2E_001E2E_001E30_001E30_001E32_001E32_001E34_001E34,
  0x001E36_001E36_001E38_001E38_001E3A_001E3A_001E3C_001E3C_001E3E_001E3E_001E40_001E40,
  0x001E42_001E42_001E44_001E44_001E46_001E46_001E48_001E48_001E4A_001E4A_001E4C_001E4C,
  0x001E4E_001E4E_001E50_001E50_001E52_001E52_001E54_001E54_001E56_001E56_001E58_001E58,
  0x001E5A_001E5A_001E5C_001E5C_001E5E_001E5E_001E60_001E60_001E62_001E62_001E64_001E64,
  0x001E66_001E66_001E68_001E68_001E6A_001E6A_001E6C_001E6C_001E6E_001E6E_001E70_001E70,
  0x001E72_001E72_001E74_001E74_001E76_001E76_001E78_001E78_001E7A_001E7A_001E7C_001E7C,
  0x001E7E_001E7E_001E80_001E80_001E82_001E82_001E84_001E84_001E86_001E86_001E88_001E88,
  0x001E8A_001E8A_001E8C_001E8C_001E8E_001E8E_001E90_001E90_001E92_001E92_001E94_001E94,
  0x001E9E_001E9E_001EA0_001EA0_001EA2_001EA2_001EA4_001EA4_001EA6_001EA6_001EA8_001EA8,
  0x001EAA_001EAA_001EAC_001EAC_001EAE_001EAE_001EB0_001EB0_001EB2_001EB2_001EB4_001EB4,
  0x001EB6_001EB6_001EB8_001EB8_001EBA_001EBA_001EBC_001EBC_001EBE_001EBE_001EC0_001EC0,
  0x001EC2_001EC2_001EC4_001EC4_001EC6_001EC6_001EC8_001EC8_001ECA_001ECA_001ECC_001ECC,
  0x001ECE_001ECE_001ED0_001ED0_001ED2_001ED2_001ED4_001ED4_001ED6_001ED6_001ED8_001ED8,
  0x001EDA_001EDA_001EDC_001EDC_001EDE_001EDE_001EE0_001EE0_001EE2_001EE2_001EE4_001EE4,
  0x001EE6_001EE6_001EE8_001EE8_001EEA_001EEA_001EEC_001EEC_001EEE_001EEE_001EF0_001EF0,
  0x001EF2_001EF2_001EF4_001EF4_001EF6_001EF6_001EF8_001EF8_001EFA_001EFA_001EFC_001EFC,
  0x001EFE_001EFE_001F08_001F0F_001F18_001F1D_001F28_001F2F_001F38_001F3F_001F48_001F4D,
  0x001F59_001F59_001F5B_001F5B_001F5D_001F5D_001F5F_001F5F_001F68_001F6F_001FB8_001FBB,
  0x001FC8_001FCB_001FD8_001FDB_001FE8_001FEC_001FF8_001FFB_002102_002102_002107_002107,
  0x00210B_00210D_002110_002112_002115_002115_002119_00211D_002124_002124_002126_002126,
  0x002128_002128_00212A_00212D_002130_002133_00213E_00213F_002145_002145_002183_002183,
  0x002C00_002C2F_002C60_002C60_002C62_002C64_002C67_002C67_002C69_002C69_002C6B_002C6B,
  0x002C6D_002C70_002C72_002C72_002C75_002C75_002C7E_002C80_002C82_002C82_002C84_002C84,
  0x002C86_002C86_002C88_002C88_002C8A_002C8A_002C8C_002C8C_002C8E_002C8E_002C90_002C90,
  0x002C92_002C92_002C94_002C94_002C96_002C96_002C98_002C98_002C9A_002C9A_002C9C_002C9C,
  0x002C9E_002C9E_002CA0_002CA0_002CA2_002CA2_002CA4_002CA4_002CA6_002CA6_002CA8_002CA8,
  0x002CAA_002CAA_002CAC_002CAC_002CAE_002CAE_002CB0_002CB0_002CB2_002CB2_002CB4_002CB4,
  0x002CB6_002CB6_002CB8_002CB8_002CBA_002CBA_002CBC_002CBC_002CBE_002CBE_002CC0_002CC0,
  0x002CC2_002CC2_002CC4_002CC4_002CC6_002CC6_002CC8_002CC8_002CCA_002CCA_002CCC_002CCC,
  0x002CCE_002CCE_002CD0_002CD0_002CD2_002CD2_002CD4_002CD4_002CD6_002CD6_002CD8_002CD8,
  0x002CDA_002CDA_002CDC_002CDC_002CDE_002CDE_002CE0_002CE0_002CE2_002CE2_002CEB_002CEB,
  0x002CED_002CED_002CF2_002CF2_00A640_00A640_00A642_00A642_00A644_00A644_00A646_00A646,
  0x00A648_00A648_00A64A_00A64A_00A64C_00A64C_00A64E_00A64E_00A650_00A650_00A652_00A652,
  0x00A654_00A654_00A656_00A656_00A658_00A658_00A65A_00A65A_00A65C_00A65C_00A65E_00A65E,
  0x00A660_00A660_00A662_00A662_00A664_00A664_00A666_00A666_00A668_00A668_00A66A_00A66A,
  0x00A66C_00A66C_00A680_00A680_00A682_00A682_00A684_00A684_00A686_00A686_00A688_00A688,
  0x00A68A_00A68A_00A68C_00A68C_00A68E_00A68E_00A690_00A690_00A692_00A692_00A694_00A694,
  0x00A696_00A696_00A698_00A698_00A69A_00A69A_00A722_00A722_00A724_00A724_00A726_00A726,
  0x00A728_00A728_00A72A_00A72A_00A72C_00A72C_00A72E_00A72E_00A732_00A732_00A734_00A734,
  0x00A736_00A736_00A738_00A738_00A73A_00A73A_00A73C_00A73C_00A73E_00A73E_00A740_00A740,
  0x00A742_00A742_00A744_00A744_00A746_00A746_00A748_00A748_00A74A_00A74A_00A74C_00A74C,
  0x00A74E_00A74E_00A750_00A750_00A752_00A752_00A754_00A754_00A756_00A756_00A758_00A758,
  0x00A75A_00A75A_00A75C_00A75C_00A75E_00A75E_00A760_00A760_00A762_00A762_00A764_00A764,
  0x00A766_00A766_00A768_00A768_00A76A_00A76A_00A76C_00A76C_00A76E_00A76E_00A779_00A779,
  0x00A77B_00A77B_00A77D_00A77E_00A780_00A780_00A782_00A782_00A784_00A784_00A786_00A786,
  0x00A78B_00A78B_00A78D_00A78D_00A790_00A790_00A792_00A792_00A796_00A796_00A798_00A798,
  0x00A79A_00A79A_00A79C_00A79C_00A79E_00A79E_00A7A0_00A7A0_00A7A2_00A7A2_00A7A4_00A7A4,
  0x00A7A6_00A7A6_00A7A8_00A7A8_00A7AA_00A7AE_00A7B0_00A7B4_00A7B6_00A7B6_00A7B8_00A7B8,
  0x00A7BA_00A7BA_00A7BC_00A7BC_00A7BE_00A7BE_00A7C0_00A7C0_00A7C2_00A7C2_00A7C4_00A7C7,
  0x00A7C9_00A7C9_00A7CB_00A7CC_00A7D0_00A7D0_00A7D6_00A7D6_00A7D8_00A7D8_00A7DA_00A7DA,
  0x00A7DC_00A7DC_00A7F5_00A7F5_00FF21_00FF3A_010400_010427_0104B0_0104D3_010570_01057A,
  0x01057C_01058A_01058C_010592_010594_010595_010C80_010CB2_010D50_010D65_0118A0_0118BF,
  0x016E40_016E5F_01D400_01D419_01D434_01D44D_01D468_01D481_01D49C_01D49C_01D49E_01D49F,
  0x01D4A2_01D4A2_01D4A5_01D4A6_01D4A9_01D4AC_01D4AE_01D4B5_01D4D0_01D4E9_01D504_01D505,
  0x01D507_01D50A_01D50D_01D514_01D516_01D51C_01D538_01D539_01D53B_01D53E_01D540_01D544,
  0x01D546_01D546_01D54A_01D550_01D56C_01D585_01D5A0_01D5B9_01D5D4_01D5ED_01D608_01D621,
  0x01D63C_01D655_01D670_01D689_01D6A8_01D6C0_01D6E2_01D6FA_01D71C_01D734_01D756_01D76E,
  0x01D790_01D7A8_01D7CA_01D7CA_01E900_01E921]

/-- Category Ll: lowercase letter. -/
def lowercaseLetter : CharClass := .packed [
  0x000061_00007A_0000B5_0000B5_0000DF_0000F6_0000F8_0000FF_000101_000101_000103_000103,
  0x000105_000105_000107_000107_000109_000109_00010B_00010B_00010D_00010D_00010F_00010F,
  0x000111_000111_000113_000113_000115_000115_000117_000117_000119_000119_00011B_00011B,
  0x00011D_00011D_00011F_00011F_000121_000121_000123_000123_000125_000125_000127_000127,
  0x000129_000129_00012B_00012B_00012D_00012D_00012F_00012F_000131_000131_000133_000133,
  0x000135_000135_000137_000138_00013A_00013A_00013C_00013C_00013E_00013E_000140_000140,
  0x000142_000142_000144_000144_000146_000146_000148_000149_00014B_00014B_00014D_00014D,
  0x00014F_00014F_000151_000151_000153_000153_000155_000155_000157_000157_000159_000159,
  0x00015B_00015B_00015D_00015D_00015F_00015F_000161_000161_000163_000163_000165_000165,
  0x000167_000167_000169_000169_00016B_00016B_00016D_00016D_00016F_00016F_000171_000171,
  0x000173_000173_000175_000175_000177_000177_00017A_00017A_00017C_00017C_00017E_000180,
  0x000183_000183_000185_000185_000188_000188_00018C_00018D_000192_000192_000195_000195,
  0x000199_00019B_00019E_00019E_0001A1_0001A1_0001A3_0001A3_0001A5_0001A5_0001A8_0001A8,
  0x0001AA_0001AB_0001AD_0001AD_0001B0_0001B0_0001B4_0001B4_0001B6_0001B6_0001B9_0001BA,
  0x0001BD_0001BF_0001C6_0001C6_0001C9_0001C9_0001CC_0001CC_0001CE_0001CE_0001D0_0001D0,
  0x0001D2_0001D2_0001D4_0001D4_0001D6_0001D6_0001D8_0001D8_0001DA_0001DA_0001DC_0001DD,
  0x0001DF_0001DF_0001E1_0001E1_0001E3_0001E3_0001E5_0001E5_0001E7_0001E7_0001E9_0001E9,
  0x0001EB_0001EB_0001ED_0001ED_0001EF_0001F0_0001F3_0001F3_0001F5_0001F5_0001F9_0001F9,
  0x0001FB_0001FB_0001FD_0001FD_0001FF_0001FF_000201_000201_000203_000203_000205_000205,
  0x000207_000207_000209_000209_00020B_00020B_00020D_00020D_00020F_00020F_000211_000211,
  0x000213_000213_000215_000215_000217_000217_000219_000219_00021B_00021B_00021D_00021D,
  0x00021F_00021F_000221_000221_000223_000223_000225_000225_000227_000227_000229_000229,
  0x00022B_00022B_00022D_00022D_00022F_00022F_000231_000231_000233_000239_00023C_00023C,
  0x00023F_000240_000242_000242_000247_000247_000249_000249_00024B_00024B_00024D_00024D,
  0x00024F_000293_000295_0002AF_000371_000371_000373_000373_000377_000377_00037B_00037D,
  0x000390_000390_0003AC_0003CE_0003D0_0003D1_0003D5_0003D7_0003D9_0003D9_0003DB_0003DB,
  0x0003DD_0003DD_0003DF_0003DF_0003E1_0003E1_0003E3_0003E3_0003E5_0003E5_0003E7_0003E7,
  0x0003E9_0003E9_0003EB_0003EB_0003ED_0003ED_0003EF_0003F3_0003F5_0003F5_0003F8_0003F8,
  0x0003FB_0003FC_000430_00045F_000461_000461_000463_000463_000465_000465_000467_000467,
  0x000469_000469_00046B_00046B_00046D_00046D_00046F_00046F_000471_000471_000473_000473,
  0x000475_000475_000477_000477_000479_000479_00047B_00047B_00047D_00047D_00047F_00047F,
  0x000481_000481_00048B_00048B_00048D_00048D_00048F_00048F_000491_000491_000493_000493,
  0x000495_000495_000497_000497_000499_000499_00049B_00049B_00049D_00049D_00049F_00049F,
  0x0004A1_0004A1_0004A3_0004A3_0004A5_0004A5_0004A7_0004A7_0004A9_0004A9_0004AB_0004AB,
  0x0004AD_0004AD_0004AF_0004AF_0004B1_0004B1_0004B3_0004B3_0004B5_0004B5_0004B7_0004B7,
  0x0004B9_0004B9_0004BB_0004BB_0004BD_0004BD_0004BF_0004BF_0004C2_0004C2_0004C4_0004C4,
  0x0004C6_0004C6_0004C8_0004C8_0004CA_0004CA_0004CC_0004CC_0004CE_0004CF_0004D1_0004D1,
  0x0004D3_0004D3_0004D5_0004D5_0004D7_0004D7_0004D9_0004D9_0004DB_0004DB_0004DD_0004DD,
  0x0004DF_0004DF_0004E1_0004E1_0004E3_0004E3_0004E5_0004E5_0004E7_0004E7_0004E9_0004E9,
  0x0004EB_0004EB_0004ED_0004ED_0004EF_0004EF_0004F1_0004F1_0004F3_0004F3_0004F5_0004F5,
  0x0004F7_0004F7_0004F9_0004F9_0004FB_0004FB_0004FD_0004FD_0004FF_0004FF_000501_000501,
  0x000503_000503_000505_000505_000507_000507_000509_000509_00050B_00050B_00050D_00050D,
  0x00050F_00050F_000511_000511_000513_000513_000515_000515_000517_000517_000519_000519,
  0x00051B_00051B_00051D_00051D_00051F_00051F_000521_000521_000523_000523_000525_000525,
  0x000527_000527_000529_000529_00052B_00052B_00052D_00052D_00052F_00052F_000560_000588,
  0x0010D0_0010FA_0010FD_0010FF_0013F8_0013FD_001C80_001C88_001C8A_001C8A_001D00_001D2B,
  0x001D6B_001D77_001D79_001D9A_001E01_001E01_001E03_001E03_001E05_001E05_001E07_001E07,
  0x001E09_001E09_001E0B_001E0B_001E0D_001E0D_001E0F_001E0F_001E11_001E11_001E13_001E13,
  0x001E15_001E15_001E17_001E17_001E19_001E19_001E1B_001E1B_001E1D_001E1D_001E1F_001E1F,
  0x001E21_001E21_001E23_001E23_001E25_001E25_001E27_001E27_001E29_001E29_001E2B_001E2B,
  0x001E2D_001E2D_001E2F_001E2F_001E31_001E31_001E33_001E33_001E35_001E35_001E37_001E37,
  0x001E39_001E39_001E3B_001E3B_001E3D_001E3D_001E3F_001E3F_001E41_001E41_001E43_001E43,
  0x001E45_001E45_001E47_001E47_001E49_001E49_001E4B_001E4B_001E4D_001E4D_001E4F_001E4F,
  0x001E51_001E51_001E53_001E53_001E55_001E55_001E57_001E57_001E59_001E59_001E5B_001E5B,
  0x001E5D_001E5D_001E5F_001E5F_001E61_001E61_001E63_001E63_001E65_001E65_001E67_001E67,
  0x001E69_001E69_001E6B_001E6B_001E6D_001E6D_001E6F_001E6F_001E71_001E71_001E73_001E73,
  0x001E75_001E75_001E77_001E77_001E79_001E79_001E7B_001E7B_001E7D_001E7D_001E7F_001E7F,
  0x001E81_001E81_001E83_001E83_001E85_001E85_001E87_001E87_001E89_001E89_001E8B_001E8B,
  0x001E8D_001E8D_001E8F_001E8F_001E91_001E91_001E93_001E93_001E95_001E9D_001E9F_001E9F,
  0x001EA1_001EA1_001EA3_001EA3_001EA5_001EA5_001EA7_001EA7_001EA9_001EA9_001EAB_001EAB,
  0x001EAD_001EAD_001EAF_001EAF_001EB1_001EB1_001EB3_001EB3_001EB5_001EB5_001EB7_001EB7,
  0x001EB9_001EB9_001EBB_001EBB_001EBD_001EBD_001EBF_001EBF_001EC1_001EC1_001EC3_001EC3,
  0x001EC5_001EC5_001EC7_001EC7_001EC9_001EC9_001ECB_001ECB_001ECD_001ECD_001ECF_001ECF,
  0x001ED1_001ED1_001ED3_001ED3_001ED5_001ED5_001ED7_001ED7_001ED9_001ED9_001EDB_001EDB,
  0x001EDD_001EDD_001EDF_001EDF_001EE1_001EE1_001EE3_001EE3_001EE5_001EE5_001EE7_001EE7,
  0x001EE9_001EE9_001EEB_001EEB_001EED_001EED_001EEF_001EEF_001EF1_001EF1_001EF3_001EF3,
  0x001EF5_001EF5_001EF7_001EF7_001EF9_001EF9_001EFB_001EFB_001EFD_001EFD_001EFF_001F07,
  0x001F10_001F15_001F20_001F27_001F30_001F37_001F40_001F45_001F50_001F57_001F60_001F67,
  0x001F70_001F7D_001F80_001F87_001F90_001F97_001FA0_001FA7_001FB0_001FB4_001FB6_001FB7,
  0x001FBE_001FBE_001FC2_001FC4_001FC6_001FC7_001FD0_001FD3_001FD6_001FD7_001FE0_001FE7,
  0x001FF2_001FF4_001FF6_001FF7_00210A_00210A_00210E_00210F_002113_002113_00212F_00212F,
  0x002134_002134_002139_002139_00213C_00213D_002146_002149_00214E_00214E_002184_002184,
  0x002C30_002C5F_002C61_002C61_002C65_002C66_002C68_002C68_002C6A_002C6A_002C6C_002C6C,
  0x002C71_002C71_002C73_002C74_002C76_002C7B_002C81_002C81_002C83_002C83_002C85_002C85,
  0x002C87_002C87_002C89_002C89_002C8B_002C8B_002C8D_002C8D_002C8F_002C8F_002C91_002C91,
  0x002C93_002C93_002C95_002C95_002C97_002C97_002C99_002C99_002C9B_002C9B_002C9D_002C9D,
  0x002C9F_002C9F_002CA1_002CA1_002CA3_002CA3_002CA5_002CA5_002CA7_002CA7_002CA9_002CA9,
  0x002CAB_002CAB_002CAD_002CAD_002CAF_002CAF_002CB1_002CB1_002CB3_002CB3_002CB5_002CB5,
  0x002CB7_002CB7_002CB9_002CB9_002CBB_002CBB_002CBD_002CBD_002CBF_002CBF_002CC1_002CC1,
  0x002CC3_002CC3_002CC5_002CC5_002CC7_002CC7_002CC9_002CC9_002CCB_002CCB_002CCD_002CCD,
  0x002CCF_002CCF_002CD1_002CD1_002CD3_002CD3_002CD5_002CD5_002CD7_002CD7_002CD9_002CD9,
  0x002CDB_002CDB_002CDD_002CDD_002CDF_002CDF_002CE1_002CE1_002CE3_002CE4_002CEC_002CEC,
  0x002CEE_002CEE_002CF3_002CF3_002D00_002D25_002D27_002D27_002D2D_002D2D_00A641_00A641,
  0x00A643_00A643_00A645_00A645_00A647_00A647_00A649_00A649_00A64B_00A64B_00A64D_00A64D,
  0x00A64F_00A64F_00A651_00A651_00A653_00A653_00A655_00A655_00A657_00A657_00A659_00A659,
  0x00A65B_00A65B_00A65D_00A65D_00A65F_00A65F_00A661_00A661_00A663_00A663_00A665_00A665,
  0x00A667_00A667_00A669_00A669_00A66B_00A66B_00A66D_00A66D_00A681_00A681_00A683_00A683,
  0x00A685_00A685_00A687_00A687_00A689_00A689_00A68B_00A68B_00A68D_00A68D_00A68F_00A68F,
  0x00A691_00A691_00A693_00A693_00A695_00A695_00A697_00A697_00A699_00A699_00A69B_00A69B,
  0x00A723_00A723_00A725_00A725_00A727_00A727_00A729_00A729_00A72B_00A72B_00A72D_00A72D,
  0x00A72F_00A731_00A733_00A733_00A735_00A735_00A737_00A737_00A739_00A739_00A73B_00A73B,
  0x00A73D_00A73D_00A73F_00A73F_00A741_00A741_00A743_00A743_00A745_00A745_00A747_00A747,
  0x00A749_00A749_00A74B_00A74B_00A74D_00A74D_00A74F_00A74F_00A751_00A751_00A753_00A753,
  0x00A755_00A755_00A757_00A757_00A759_00A759_00A75B_00A75B_00A75D_00A75D_00A75F_00A75F,
  0x00A761_00A761_00A763_00A763_00A765_00A765_00A767_00A767_00A769_00A769_00A76B_00A76B,
  0x00A76D_00A76D_00A76F_00A76F_00A771_00A778_00A77A_00A77A_00A77C_00A77C_00A77F_00A77F,
  0x00A781_00A781_00A783_00A783_00A785_00A785_00A787_00A787_00A78C_00A78C_00A78E_00A78E,
  0x00A791_00A791_00A793_00A795_00A797_00A797_00A799_00A799_00A79B_00A79B_00A79D_00A79D,
  0x00A79F_00A79F_00A7A1_00A7A1_00A7A3_00A7A3_00A7A5_00A7A5_00A7A7_00A7A7_00A7A9_00A7A9,
  0x00A7AF_00A7AF_00A7B5_00A7B5_00A7B7_00A7B7_00A7B9_00A7B9_00A7BB_00A7BB_00A7BD_00A7BD,
  0x00A7BF_00A7BF_00A7C1_00A7C1_00A7C3_00A7C3_00A7C8_00A7C8_00A7CA_00A7CA_00A7CD_00A7CD,
  0x00A7D1_00A7D1_00A7D3_00A7D3_00A7D5_00A7D5_00A7D7_00A7D7_00A7D9_00A7D9_00A7DB_00A7DB,
  0x00A7F6_00A7F6_00A7FA_00A7FA_00AB30_00AB5A_00AB60_00AB68_00AB70_00ABBF_00FB00_00FB06,
  0x00FB13_00FB17_00FF41_00FF5A_010428_01044F_0104D8_0104FB_010597_0105A1_0105A3_0105B1,
  0x0105B3_0105B9_0105BB_0105BC_010CC0_010CF2_010D70_010D85_0118C0_0118DF_016E60_016E7F,
  0x01D41A_01D433_01D44E_01D454_01D456_01D467_01D482_01D49B_01D4B6_01D4B9_01D4BB_01D4BB,
  0x01D4BD_01D4C3_01D4C5_01D4CF_01D4EA_01D503_01D51E_01D537_01D552_01D56B_01D586_01D59F,
  0x01D5BA_01D5D3_01D5EE_01D607_01D622_01D63B_01D656_01D66F_01D68A_01D6A5_01D6C2_01D6DA,
  0x01D6DC_01D6E1_01D6FC_01D714_01D716_01D71B_01D736_01D74E_01D750_01D755_01D770_01D788,
  0x01D78A_01D78F_01D7AA_01D7C2_01D7C4_01D7C9_01D7CB_01D7CB_01DF00_01DF09_01DF0B_01DF1E,
  0x01DF25_01DF2A_01E922_01E943]

/-- Category Lt: titlecase letter. -/
def titlecaseLetter : CharClass := .packed [
  0x0001C5_0001C5_0001C8_0001C8_0001CB_0001CB_0001F2_0001F2_001F88_001F8F_001F98_001F9F,
  0x001FA8_001FAF_001FBC_001FBC_001FCC_001FCC_001FFC_001FFC]

/-- Category Lm: modifier letter. -/
def modifierLetter : CharClass := .packed [
  0x0002B0_0002C1_0002C6_0002D1_0002E0_0002E4_0002EC_0002EC_0002EE_0002EE_000374_000374,
  0x00037A_00037A_000559_000559_000640_000640_0006E5_0006E6_0007F4_0007F5_0007FA_0007FA,
  0x00081A_00081A_000824_000824_000828_000828_0008C9_0008C9_000971_000971_000E46_000E46,
  0x000EC6_000EC6_0010FC_0010FC_0017D7_0017D7_001843_001843_001AA7_001AA7_001C78_001C7D,
  0x001D2C_001D6A_001D78_001D78_001D9B_001DBF_002071_002071_00207F_00207F_002090_00209C,
  0x002C7C_002C7D_002D6F_002D6F_002E2F_002E2F_003005_003005_003031_003035_00303B_00303B,
  0x00309D_00309E_0030FC_0030FE_00A015_00A015_00A4F8_00A4FD_00A60C_00A60C_00A67F_00A67F,
  0x00A69C_00A69D_00A717_00A71F_00A770_00A770_00A788_00A788_00A7F2_00A7F4_00A7F8_00A7F9,
  0x00A9CF_00A9CF_00A9E6_00A9E6_00AA70_00AA70_00AADD_00AADD_00AAF3_00AAF4_00AB5C_00AB5F,
  0x00AB69_00AB69_00FF70_00FF70_00FF9E_00FF9F_010780_010785_010787_0107B0_0107B2_0107BA,
  0x010D4E_010D4E_010D6F_010D6F_016B40_016B43_016D40_016D42_016D6B_016D6C_016F93_016F9F,
  0x016FE0_016FE1_016FE3_016FE3_01AFF0_01AFF3_01AFF5_01AFFB_01AFFD_01AFFE_01E030_01E06D,
  0x01E137_01E13D_01E4EB_01E4EB_01E94B_01E94B]

/-- Category Lo: other letter. -/
def otherLetter : CharClass := .packed [
  0x0000AA_0000AA_0000BA_0000BA_0001BB_0001BB_0001C0_0001C3_000294_000294_0005D0_0005EA,
  0x0005EF_0005F2_000620_00063F_000641_00064A_00066E_00066F_000671_0006D3_0006D5_0006D5,
  0x0006EE_0006EF_0006FA_0006FC_0006FF_0006FF_000710_000710_000712_00072F_00074D_0007A5,
  0x0007B1_0007B1_0007CA_0007EA_000800_000815_000840_000858_000860_00086A_000870_000887,
  0x000889_00088E_0008A0_0008C8_000904_000939_00093D_00093D_000950_000950_000958_000961,
  0x000972_000980_000985_00098C_00098F_000990_000993_0009A8_0009AA_0009B0_0009B2_0009B2,
  0x0009B6_0009B9_0009BD_0009BD_0009CE_0009CE_0009DC_0009DD_0009DF_0009E1_0009F0_0009F1,
  0x0009FC_0009FC_000A05_000A0A_000A0F_000A10_000A13_000A28_000A2A_000A30_000A32_000A33,
  0x000A35_000A36_000A38_000A39_000A59_000A5C_000A5E_000A5E_000A72_000A74_000A85_000A8D,
  0x000A8F_000A91_000A93_000AA8_000AAA_000AB0_000AB2_000AB3_000AB5_000AB9_000ABD_000ABD,
  0x000AD0_000AD0_000AE0_000AE1_000AF9_000AF9_000B05_000B0C_000B0F_000B10_000B13_000B28,
  0x000B2A_000B30_000B32_000B33_000B35_000B39_000B3D_000B3D_000B5C_000B5D_000B5F_000B61,
  0x000B71_000B71_000B83_000B83_000B85_000B8A_000B8E_000B90_000B92_000B95_000B99_000B9A,
  0x000B9C_000B9C_000B9E_000B9F_000BA3_000BA4_000BA8_000BAA_000BAE_000BB9_000BD0_000BD0,
  0x000C05_000C0C_000C0E_000C10_000C12_000C28_000C2A_000C39_000C3D_000C3D_000C58_000C5A,
  0x000C5D_000C5D_000C60_000C61_000C80_000C80_000C85_000C8C_000C8E_000C90_000C92_000CA8,
  0x000CAA_000CB3_000CB5_000CB9_000CBD_000CBD_000CDD_000CDE_000CE0_000CE1_000CF1_000CF2,
  0x000D04_000D0C_000D0E_000D10_000D12_000D3A_000D3D_000D3D_000D4E_000D4E_000D54_000D56,
  0x000D5F_000D61_000D7A_000D7F_000D85_000D96_000D9A_000DB1_000DB3_000DBB_000DBD_000DBD,
  0x000DC0_000DC6_000E01_000E30_000E32_000E33_000E40_000E45_000E81_000E82_000E84_000E84,
  0x000E86_000E8A_000E8C_000EA3_000EA5_000EA5_000EA7_000EB0_000EB2_000EB3_000EBD_000EBD,
  0x000EC0_000EC4_000EDC_000EDF_000F00_000F00_000F40_000F47_000F49_000F6C_000F88_000F8C,
  0x001000_00102A_00103F_00103F_001050_001055_00105A_00105D_001061_001061_001065_001066,
  0x00106E_001070_001075_001081_00108E_00108E_001100_001248_00124A_00124D_001250_001256,
  0x001258_001258_00125A_00125D_001260_001288_00128A_00128D_001290_0012B0_0012B2_0012B5,
  0x0012B8_0012BE_0012C0_0012C0_0012C2_0012C5_0012C8_0012D6_0012D8_001310_001312_001315,
  0x001318_00135A_001380_00138F_001401_00166C_00166F_00167F_001681_00169A_0016A0_0016EA,
  0x0016F1_0016F8_001700_001711_00171F_001731_001740_001751_001760_00176C_00176E_001770,
  0x001780_0017B3_0017DC_0017DC_001820_001842_001844_001878_001880_001884_001887_0018A8,
  0x0018AA_0018AA_0018B0_0018F5_001900_00191E_001950_00196D_001970_001974_001980_0019AB,
  0x0019B0_0019C9_001A00_001A16_001A20_001A54_001B05_001B33_001B45_001B4C_001B83_001BA0,
  0x001BAE_001BAF_001BBA_001BE5_001C00_001C23_001C4D_001C4F_001C5A_001C77_001CE9_001CEC,
  0x001CEE_001CF3_001CF5_001CF6_001CFA_001CFA_002135_002138_002D30_002D67_002D80_002D96,
  0x002DA0_002DA6_002DA8_002DAE_002DB0_002DB6_002DB8_002DBE_002DC0_002DC6_002DC8_002DCE,
  0x002DD0_002DD6_002DD8_002DDE_003006_003006_00303C_00303C_003041_003096_00309F_00309F,
  0x0030A1_0030FA_0030FF_0030FF_003105_00312F_003131_00318E_0031A0_0031BF_0031F0_0031FF,
  0x003400_004DBF_004E00_00A014_00A016_00A48C_00A4D0_00A4F7_00A500_00A60B_00A610_00A61F,
  0x00A62A_00A62B_00A66E_00A66E_00A6A0_00A6E5_00A78F_00A78F_00A7F7_00A7F7_00A7FB_00A801,
  0x00A803_00A805_00A807_00A80A_00A80C_00A822_00A840_00A873_00A882_00A8B3_00A8F2_00A8F7,
  0x00A8FB_00A8FB_00A8FD_00A8FE_00A90A_00A925_00A930_00A946_00A960_00A97C_00A984_00A9B2,
  0x00A9E0_00A9E4_00A9E7_00A9EF_00A9FA_00A9FE_00AA00_00AA28_00AA40_00AA42_00AA44_00AA4B,
  0x00AA60_00AA6F_00AA71_00AA76_00AA7A_00AA7A_00AA7E_00AAAF_00AAB1_00AAB1_00AAB5_00AAB6,
  0x00AAB9_00AABD_00AAC0_00AAC0_00AAC2_00AAC2_00AADB_00AADC_00AAE0_00AAEA_00AAF2_00AAF2,
  0x00AB01_00AB06_00AB09_00AB0E_00AB11_00AB16_00AB20_00AB26_00AB28_00AB2E_00ABC0_00ABE2,
  0x00AC00_00D7A3_00D7B0_00D7C6_00D7CB_00D7FB_00F900_00FA6D_00FA70_00FAD9_00FB1D_00FB1D,
  0x00FB1F_00FB28_00FB2A_00FB36_00FB38_00FB3C_00FB3E_00FB3E_00FB40_00FB41_00FB43_00FB44,
  0x00FB46_00FBB1_00FBD3_00FD3D_00FD50_00FD8F_00FD92_00FDC7_00FDF0_00FDFB_00FE70_00FE74,
  0x00FE76_00FEFC_00FF66_00FF6F_00FF71_00FF9D_00FFA0_00FFBE_00FFC2_00FFC7_00FFCA_00FFCF,
  0x00FFD2_00FFD7_00FFDA_00FFDC_010000_01000B_01000D_010026_010028_01003A_01003C_01003D,
  0x01003F_01004D_010050_01005D_010080_0100FA_010280_01029C_0102A0_0102D0_010300_01031F,
  0x01032D_010340_010342_010349_010350_010375_010380_01039D_0103A0_0103C3_0103C8_0103CF,
  0x010450_01049D_010500_010527_010530_010563_0105C0_0105F3_010600_010736_010740_010755,
  0x010760_010767_010800_010805_010808_010808_01080A_010835_010837_010838_01083C_01083C,
  0x01083F_010855_010860_010876_010880_01089E_0108E0_0108F2_0108F4_0108F5_010900_010915,
  0x010920_010939_010980_0109B7_0109BE_0109BF_010A00_010A00_010A10_010A13_010A15_010A17,
  0x010A19_010A35_010A60_010A7C_010A80_010A9C_010AC0_010AC7_010AC9_010AE4_010B00_010B35,
  0x010B40_010B55_010B60_010B72_010B80_010B91_010C00_010C48_010D00_010D23_010D4A_010D4D,
  0x010D4F_010D4F_010E80_010EA9_010EB0_010EB1_010EC2_010EC4_010F00_010F1C_010F27_010F27,
  0x010F30_010F45_010F70_010F81_010FB0_010FC4_010FE0_010FF6_011003_011037_011071_011072,
  0x011075_011075_011083_0110AF_0110D0_0110E8_011103_011126_011144_011144_011147_011147,
  0x011150_011172_011176_011176_011183_0111B2_0111C1_0111C4_0111DA_0111DA_0111DC_0111DC,
  0x011200_011211_011213_01122B_01123F_011240_011280_011286_011288_011288_01128A_01128D,
  0x01128F_01129D_01129F_0112A8_0112B0_0112DE_011305_01130C_01130F_011310_011313_011328,
  0x01132A_011330_011332_011333_011335_011339_01133D_01133D_011350_011350_01135D_011361,
  0x011380_011389_01138B_01138B_01138E_01138E_011390_0113B5_0113B7_0113B7_0113D1_0113D1,
  0x0113D3_0113D3_011400_011434_011447_01144A_01145F_011461_011480_0114AF_0114C4_0114C5,
  0x0114C7_0114C7_011580_0115AE_0115D8_0115DB_011600_01162F_011644_011644_011680_0116AA,
  0x0116B8_0116B8_011700_01171A_011740_011746_011800_01182B_0118FF_011906_011909_011909,
  0x01190C_011913_011915_011916_011918_01192F_01193F_01193F_011941_011941_0119A0_0119A7,
  0x0119AA_0119D0_0119E1_0119E1_0119E3_0119E3_011A00_011A00_011A0B_011A32_011A3A_011A3A,
  0x011A50_011A50_011A5C_011A89_011A9D_011A9D_011AB0_011AF8_011BC0_011BE0_011C00_011C08,
  0x011C0A_011C2E_011C40_011C40_011C72_011C8F_011D00_011D06_011D08_011D09_011D0B_011D30,
  0x011D46_011D46_011D60_011D65_011D67_011D68_011D6A_011D89_011D98_011D98_011EE0_011EF2,
  0x011F02_011F02_011F04_011F10_011F12_011F33_011FB0_011FB0_012000_012399_012480_012543,
  0x012F90_012FF0_013000_01342F_013441_013446_013460_0143FA_014400_014646_016100_01611D,
  0x016800_016A38_016A40_016A5E_016A70_016ABE_016AD0_016AED_016B00_016B2F_016B63_016B77,
  0x016B7D_016B8F_016D43_016D6A_016F00_016F4A_016F50_016F50_017000_0187F7_018800_018CD5,
  0x018CFF_018D08_01B000_01B122_01B132_01B132_01B150_01B152_01B155_01B155_01B164_01B167,
  0x01B170_01B2FB_01BC00_01BC6A_01BC70_01BC7C_01BC80_01BC88_01BC90_01BC99_01DF0A_01DF0A,
  0x01E100_01E12C_01E14E_01E14E_01E290_01E2AD_01E2C0_01E2EB_01E4D0_01E4EA_01E5D0_01E5ED,
  0x01E5F0_01E5F0_01E7E0_01E7E6_01E7E8_01E7EB_01E7ED_01E7EE_01E7F0_01E7FE_01E800_01E8C4,
  0x01EE00_01EE03_01EE05_01EE1F_01EE21_01EE22_01EE24_01EE24_01EE27_01EE27_01EE29_01EE32,
  0x01EE34_01EE37_01EE39_01EE39_01EE3B_01EE3B_01EE42_01EE42_01EE47_01EE47_01EE49_01EE49,
  0x01EE4B_01EE4B_01EE4D_01EE4F_01EE51_01EE52_01EE54_01EE54_01EE57_01EE57_01EE59_01EE59,
  0x01EE5B_01EE5B_01EE5D_01EE5D_01EE5F_01EE5F_01EE61_01EE62_01EE64_01EE64_01EE67_01EE6A,
  0x01EE6C_01EE72_01EE74_01EE77_01EE79_01EE7C_01EE7E_01EE7E_01EE80_01EE89_01EE8B_01EE9B,
  0x01EEA1_01EEA3_01EEA5_01EEA9_01EEAB_01EEBB_020000_02A6DF_02A700_02B739_02B740_02B81D,
  0x02B820_02CEA1_02CEB0_02EBE0_02EBF0_02EE5D_02F800_02FA1D_030000_03134A_031350_0323AF]

/-- Category Mn: nonspacing mark. -/
def nonspacingMark : CharClass := .packed [
  0x000300_00036F_000483_000487_000591_0005BD_0005BF_0005BF_0005C1_0005C2_0005C4_0005C5,
  0x0005C7_0005C7_000610_00061A_00064B_00065F_000670_000670_0006D6_0006DC_0006DF_0006E4,
  0x0006E7_0006E8_0006EA_0006ED_000711_000711_000730_00074A_0007A6_0007B0_0007EB_0007F3,
  0x0007FD_0007FD_000816_000819_00081B_000823_000825_000827_000829_00082D_000859_00085B,
  0x000897_00089F_0008CA_0008E1_0008E3_000902_00093A_00093A_00093C_00093C_000941_000948,
  0x00094D_00094D_000951_000957_000962_000963_000981_000981_0009BC_0009BC_0009C1_0009C4,
  0x0009CD_0009CD_0009E2_0009E3_0009FE_0009FE_000A01_000A02_000A3C_000A3C_000A41_000A42,
  0x000A47_000A48_000A4B_000A4D_000A51_000A51_000A70_000A71_000A75_000A75_000A81_000A82,
  0x000ABC_000ABC_000AC1_000AC5_000AC7_000AC8_000ACD_000ACD_000AE2_000AE3_000AFA_000AFF,
  0x000B01_000B01_000B3C_000B3C_000B3F_000B3F_000B41_000B44_000B4D_000B4D_000B55_000B56,
  0x000B62_000B63_000B82_000B82_000BC0_000BC0_000BCD_000BCD_000C00_000C00_000C04_000C04,
  0x000C3C_000C3C_000C3E_000C40_000C46_000C48_000C4A_000C4D_000C55_000C56_000C62_000C63,
  0x000C81_000C81_000CBC_000CBC_000CBF_000CBF_000CC6_000CC6_000CCC_000CCD_000CE2_000CE3,
  0x000D00_000D01_000D3B_000D3C_000D41_000D44_000D4D_000D4D_000D62_000D63_000D81_000D81,
  0x000DCA_000DCA_000DD2_000DD4_000DD6_000DD6_000E31_000E31_000E34_000E3A_000E47_000E4E,
  0x000EB1_000EB1_000EB4_000EBC_000EC8_000ECE_000F18_000F19_000F35_000F35_000F37_000F37,
  0x000F39_000F39_000F71_000F7E_000F80_000F84_000F86_000F87_000F8D_000F97_000F99_000FBC,
  0x000FC6_000FC6_00102D_001030_001032_001037_001039_00103A_00103D_00103E_001058_001059,
  0x00105E_001060_001071_001074_001082_001082_001085_001086_00108D_00108D_00109D_00109D,
  0x00135D_00135F_001712_001714_001732_001733_001752_001753_001772_001773_0017B4_0017B5,
  0x0017B7_0017BD_0017C6_0017C6_0017C9_0017D3_0017DD_0017DD_00180B_00180D_00180F_00180F,
  0x001885_001886_0018A9_0018A9_001920_001922_001927_001928_001932_001932_001939_00193B,
  0x001A17_001A18_001A1B_001A1B_001A56_001A56_001A58_001A5E_001A60_001A60_001A62_001A62,
  0x001A65_001A6C_001A73_001A7C_001A7F_001A7F_001AB0_001ABD_001ABF_001ACE_001B00_001B03,
  0x001B34_001B34_001B36_001B3A_001B3C_001B3C_001B42_001B42_001B6B_001B73_001B80_001B81,
  0x001BA2_001BA5_001BA8_001BA9_001BAB_001BAD_001BE6_001BE6_001BE8_001BE9_001BED_001BED,
  0x001BEF_001BF1_001C2C_001C33_001C36_001C37_001CD0_001CD2_001CD4_001CE0_001CE2_001CE8,
  0x001CED_001CED_001CF4_001CF4_001CF8_001CF9_001DC0_001DFF_0020D0_0020DC_0020E1_0020E1,
  0x0020E5_0020F0_002CEF_002CF1_002D7F_002D7F_002DE0_002DFF_00302A_00302D_003099_00309A,
  0x00A66F_00A66F_00A674_00A67D_00A69E_00A69F_00A6F0_00A6F1_00A802_00A802_00A806_00A806,
  0x00A80B_00A80B_00A825_00A826_00A82C_00A82C_00A8C4_00A8C5_00A8E0_00A8F1_00A8FF_00A8FF,
  0x00A926_00A92D_00A947_00A951_00A980_00A982_00A9B3_00A9B3_00A9B6_00A9B9_00A9BC_00A9BD,
  0x00A9E5_00A9E5_00AA29_00AA2E_00AA31_00AA32_00AA35_00AA36_00AA43_00AA43_00AA4C_00AA4C,
  0x00AA7C_00AA7C_00AAB0_00AAB0_00AAB2_00AAB4_00AAB7_00AAB8_00AABE_00AABF_00AAC1_00AAC1,
  0x00AAEC_00AAED_00AAF6_00AAF6_00ABE5_00ABE5_00ABE8_00ABE8_00ABED_00ABED_00FB1E_00FB1E,
  0x00FE00_00FE0F_00FE20_00FE2F_0101FD_0101FD_0102E0_0102E0_010376_01037A_010A01_010A03,
  0x010A05_010A06_010A0C_010A0F_010A38_010A3A_010A3F_010A3F_010AE5_010AE6_010D24_010D27,
  0x010D69_010D6D_010EAB_010EAC_010EFC_010EFF_010F46_010F50_010F82_010F85_011001_011001,
  0x011038_011046_011070_011070_011073_011074_01107F_011081_0110B3_0110B6_0110B9_0110BA,
  0x0110C2_0110C2_011100_011102_011127_01112B_01112D_011134_011173_011173_011180_011181,
  0x0111B6_0111BE_0111C9_0111CC_0111CF_0111CF_01122F_011231_011234_011234_011236_011237,
  0x01123E_01123E_011241_011241_0112DF_0112DF_0112E3_0112EA_011300_011301_01133B_01133C,
  0x011340_011340_011366_01136C_011370_011374_0113BB_0113C0_0113CE_0113CE_0113D0_0113D0,
  0x0113D2_0113D2_0113E1_0113E2_011438_01143F_011442_011444_011446_011446_01145E_01145E,
  0x0114B3_0114B8_0114BA_0114BA_0114BF_0114C0_0114C2_0114C3_0115B2_0115B5_0115BC_0115BD,
  0x0115BF_0115C0_0115DC_0115DD_011633_01163A_01163D_01163D_01163F_011640_0116AB_0116AB,
  0x0116AD_0116AD_0116B0_0116B5_0116B7_0116B7_01171D_01171D_01171F_01171F_011722_011725,
  0x011727_01172B_01182F_011837_011839_01183A_01193B_01193C_01193E_01193E_011943_011943,
  0x0119D4_0119D7_0119DA_0119DB_0119E0_0119E0_011A01_011A0A_011A33_011A38_011A3B_011A3E,
  0x011A47_011A47_011A51_011A56_011A59_011A5B_011A8A_011A96_011A98_011A99_011C30_011C36,
  0x011C38_011C3D_011C3F_011C3F_011C92_011CA7_011CAA_011CB0_011CB2_011CB3_011CB5_011CB6,
  0x011D31_011D36_011D3A_011D3A_011D3C_011D3D_011D3F_011D45_011D47_011D47_011D90_011D91,
  0x011D95_011D95_011D97_011D97_011EF3_011EF4_011F00_011F01_011F36_011F3A_011F40_011F40,
  0x011F42_011F42_011F5A_011F5A_013440_013440_013447_013455_01611E_016129_01612D_01612F,
  0x016AF0_016AF4_016B30_016B36_016F4F_016F4F_016F8F_016F92_016FE4_016FE4_01BC9D_01BC9E,
  0x01CF00_01CF2D_01CF30_01CF46_01D167_01D169_01D17B_01D182_01D185_01D18B_01D1AA_01D1AD,
  0x01D242_01D244_01DA00_01DA36_01DA3B_01DA6C_01DA75_01DA75_01DA84_01DA84_01DA9B_01DA9F,
  0x01DAA1_01DAAF_01E000_01E006_01E008_01E018_01E01B_01E021_01E023_01E024_01E026_01E02A,
  0x01E08F_01E08F_01E130_01E136_01E2AE_01E2AE_01E2EC_01E2EF_01E4EC_01E4EF_01E5EE_01E5EF,
  0x01E8D0_01E8D6_01E944_01E94A_0E0100_0E01EF]

/-- Category Mc: spacing mark. -/
def spacingMark : CharClass := .packed [
  0x000903_000903_00093B_00093B_00093E_000940_000949_00094C_00094E_00094F_000982_000983,
  0x0009BE_0009C0_0009C7_0009C8_0009CB_0009CC_0009D7_0009D7_000A03_000A03_000A3E_000A40,
  0x000A83_000A83_000ABE_000AC0_000AC9_000AC9_000ACB_000ACC_000B02_000B03_000B3E_000B3E,
  0x000B40_000B40_000B47_000B48_000B4B_000B4C_000B57_000B57_000BBE_000BBF_000BC1_000BC2,
  0x000BC6_000BC8_000BCA_000BCC_000BD7_000BD7_000C01_000C03_000C41_000C44_000C82_000C83,
  0x000CBE_000CBE_000CC0_000CC4_000CC7_000CC8_000CCA_000CCB_000CD5_000CD6_000CF3_000CF3,
  0x000D02_000D03_000D3E_000D40_000D46_000D48_000D4A_000D4C_000D57_000D57_000D82_000D83,
  0x000DCF_000DD1_000DD8_000DDF_000DF2_000DF3_000F3E_000F3F_000F7F_000F7F_00102B_00102C,
  0x001031_001031_001038_001038_00103B_00103C_001056_001057_001062_001064_001067_00106D,
  0x001083_001084_001087_00108C_00108F_00108F_00109A_00109C_001715_001715_001734_001734,
  0x0017B6_0017B6_0017BE_0017C5_0017C7_0017C8_001923_001926_001929_00192B_001930_001931,
  0x001933_001938_001A19_001A1A_001A55_001A55_001A57_001A57_001A61_001A61_001A63_001A64,
  0x001A6D_001A72_001B04_001B04_001B35_001B35_001B3B_001B3B_001B3D_001B41_001B43_001B44,
  0x001B82_001B82_001BA1_001BA1_001BA6_001BA7_001BAA_001BAA_001BE7_001BE7_001BEA_001BEC,
  0x001BEE_001BEE_001BF2_001BF3_001C24_001C2B_001C34_001C35_001CE1_001CE1_001CF7_001CF7,
  0x00302E_00302F_00A823_00A824_00A827_00A827_00A880_00A881_00A8B4_00A8C3_00A952_00A953,
  0x00A983_00A983_00A9B4_00A9B5_00A9BA_00A9BB_00A9BE_00A9C0_00AA2F_00AA30_00AA33_00AA34,
  0x00AA4D_00AA4D_00AA7B_00AA7B_00AA7D_00AA7D_00AAEB_00AAEB_00AAEE_00AAEF_00AAF5_00AAF5,
  0x00ABE3_00ABE4_00ABE6_00ABE7_00ABE9_00ABEA_00ABEC_00ABEC_011000_011000_011002_011002,
  0x011082_011082_0110B0_0110B2_0110B7_0110B8_01112C_01112C_011145_011146_011182_011182,
  0x0111B3_0111B5_0111BF_0111C0_0111CE_0111CE_01122C_01122E_011232_011233_011235_011235,
  0x0112E0_0112E2_011302_011303_01133E_01133F_011341_011344_011347_011348_01134B_01134D,
  0x011357_011357_011362_011363_0113B8_0113BA_0113C2_0113C2_0113C5_0113C5_0113C7_0113CA,
  0x0113CC_0113CD_0113CF_0113CF_011435_011437_011440_011441_011445_011445_0114B0_0114B2,
  0x0114B9_0114B9_0114BB_0114BE_0114C1_0114C1_0115AF_0115B1_0115B8_0115BB_0115BE_0115BE,
  0x011630_011632_01163B_01163C_01163E_01163E_0116AC_0116AC_0116AE_0116AF_0116B6_0116B6,
  0x01171E_01171E_011720_011721_011726_011726_01182C_01182E_011838_011838_011930_011935,
  0x011937_011938_01193D_01193D_011940_011940_011942_011942_0119D1_0119D3_0119DC_0119DF,
  0x0119E4_0119E4_011A39_011A39_011A57_011A58_011A97_011A97_011C2F_011C2F_011C3E_011C3E,
  0x011CA9_011CA9_011CB1_011CB1_011CB4_011CB4_011D8A_011D8E_011D93_011D94_011D96_011D96,
  0x011EF5_011EF6_011F03_011F03_011F34_011F35_011F3E_011F3F_011F41_011F41_01612A_01612C,
  0x016F51_016F87_016FF0_016FF1_01D165_01D166_01D16D_01D172]

/-- Category Me: enclosing mark. -/
def enclosingMark : CharClass := .packed [
  0x000488_000489_001ABE_001ABE_0020DD_0020E0_0020E2_0020E4_00A670_00A672]

/-- Category Nd: decimal number. -/
def decimalNumber : CharClass := .packed [
  0x000030_000039_000660_000669_0006F0_0006F9_0007C0_0007C9_000966_00096F_0009E6_0009EF,
  0x000A66_000A6F_000AE6_000AEF_000B66_000B6F_000BE6_000BEF_000C66_000C6F_000CE6_000CEF,
  0x000D66_000D6F_000DE6_000DEF_000E50_000E59_000ED0_000ED9_000F20_000F29_001040_001049,
  0x001090_001099_0017E0_0017E9_001810_001819_001946_00194F_0019D0_0019D9_001A80_001A89,
  0x001A90_001A99_001B50_001B59_001BB0_001BB9_001C40_001C49_001C50_001C59_00A620_00A629,
  0x00A8D0_00A8D9_00A900_00A909_00A9D0_00A9D9_00A9F0_00A9F9_00AA50_00AA59_00ABF0_00ABF9,
  0x00FF10_00FF19_0104A0_0104A9_010D30_010D39_010D40_010D49_011066_01106F_0110F0_0110F9,
  0x011136_01113F_0111D0_0111D9_0112F0_0112F9_011450_011459_0114D0_0114D9_011650_011659,
  0x0116C0_0116C9_0116D0_0116E3_011730_011739_0118E0_0118E9_011950_011959_011BF0_011BF9,
  0x011C50_011C59_011D50_011D59_011DA0_011DA9_011F50_011F59_016130_016139_016A60_016A69,
  0x016AC0_016AC9_016B50_016B59_016D70_016D79_01CCF0_01CCF9_01D7CE_01D7FF_01E140_01E149,
  0x01E2F0_01E2F9_01E4F0_01E4F9_01E5F1_01E5FA_01E950_01E959_01FBF0_01FBF9]

/-- Category Nl: letter number. -/
def letterNumber : CharClass := .packed [
  0x0016EE_0016F0_002160_002182_002185_002188_003007_003007_003021_003029_003038_00303A,
  0x00A6E6_00A6EF_010140_010174_010341_010341_01034A_01034A_0103D1_0103D5_012400_01246E]

/-- Category No: other number. -/
def otherNumber : CharClass := .packed [
  0x0000B2_0000B3_0000B9_0000B9_0000BC_0000BE_0009F4_0009F9_000B72_000B77_000BF0_000BF2,
  0x000C78_000C7E_000D58_000D5E_000D70_000D78_000F2A_000F33_001369_00137C_0017F0_0017F9,
  0x0019DA_0019DA_002070_002070_002074_002079_002080_002089_002150_00215F_002189_002189,
  0x002460_00249B_0024EA_0024FF_002776_002793_002CFD_002CFD_003192_003195_003220_003229,
  0x003248_00324F_003251_00325F_003280_003289_0032B1_0032BF_00A830_00A835_010107_010133,
  0x010175_010178_01018A_01018B_0102E1_0102FB_010320_010323_010858_01085F_010879_01087F,
  0x0108A7_0108AF_0108FB_0108FF_010916_01091B_0109BC_0109BD_0109C0_0109CF_0109D2_0109FF,
  0x010A40_010A48_010A7D_010A7E_010A9D_010A9F_010AEB_010AEF_010B58_010B5F_010B78_010B7F,
  0x010BA9_010BAF_010CFA_010CFF_010E60_010E7E_010F1D_010F26_010F51_010F54_010FC5_010FCB,
  0x011052_011065_0111E1_0111F4_01173A_01173B_0118EA_0118F2_011C5A_011C6C_011FC0_011FD4,
  0x016B5B_016B61_016E80_016E96_01D2C0_01D2D3_01D2E0_01D2F3_01D360_01D378_01E8C7_01E8CF,
  0x01EC71_01ECAB_01ECAD_01ECAF_01ECB1_01ECB4_01ED01_01ED2D_01ED2F_01ED3D_01F100_01F10C]

/-- Category Pc: connector punctuation. -/
def connectorPunctuation : CharClass := .packed [
  0x00005F_00005F_00203F_002040_002054_002054_00FE33_00FE34_00FE4D_00FE4F_00FF3F_00FF3F]

/-- Category Pd: dash punctuation. -/
def dashPunctuation : CharClass := .packed [
  0x00002D_00002D_00058A_00058A_0005BE_0005BE_001400_001400_001806_001806_002010_002015,
  0x002E17_002E17_002E1A_002E1A_002E3A_002E3B_002E40_002E40_002E5D_002E5D_00301C_00301C,
  0x003030_003030_0030A0_0030A0_00FE31_00FE32_00FE58_00FE58_00FE63_00FE63_00FF0D_00FF0D,
  0x010D6E_010D6E_010EAD_010EAD]

/-- Category Ps: open punctuation. -/
def openPunctuation : CharClass := .packed [
  0x000028_000028_00005B_00005B_00007B_00007B_000F3A_000F3A_000F3C_000F3C_00169B_00169B,
  0x00201A_00201A_00201E_00201E_002045_002045_00207D_00207D_00208D_00208D_002308_002308,
  0x00230A_00230A_002329_002329_002768_002768_00276A_00276A_00276C_00276C_00276E_00276E,
  0x002770_002770_002772_002772_002774_002774_0027C5_0027C5_0027E6_0027E6_0027E8_0027E8,
  0x0027EA_0027EA_0027EC_0027EC_0027EE_0027EE_002983_002983_002985_002985_002987_002987,
  0x002989_002989_00298B_00298B_00298D_00298D_00298F_00298F_002991_002991_002993_002993,
  0x002995_002995_002997_002997_0029D8_0029D8_0029DA_0029DA_0029FC_0029FC_002E22_002E22,
  0x002E24_002E24_002E26_002E26_002E28_002E28_002E42_002E42_002E55_002E55_002E57_002E57,
  0x002E59_002E59_002E5B_002E5B_003008_003008_00300A_00300A_00300C_00300C_00300E_00300E,
  0x003010_003010_003014_003014_003016_003016_003018_003018_00301A_00301A_00301D_00301D,
  0x00FD3F_00FD3F_00FE17_00FE17_00FE35_00FE35_00FE37_00FE37_00FE39_00FE39_00FE3B_00FE3B,
  0x00FE3D_00FE3D_00FE3F_00FE3F_00FE41_00FE41_00FE43_00FE43_00FE47_00FE47_00FE59_00FE59,
  0x00FE5B_00FE5B_00FE5D_00FE5D_00FF08_00FF08_00FF3B_00FF3B_00FF5B_00FF5B_00FF5F_00FF5F,
  0x00FF62_00FF62]

/-- Category Pe: close punctuation. -/
def closePunctuation : CharClass := .packed [
  0x000029_000029_00005D_00005D_00007D_00007D_000F3B_000F3B_000F3D_000F3D_00169C_00169C,
  0x002046_002046_00207E_00207E_00208E_00208E_002309_002309_00230B_00230B_00232A_00232A,
  0x002769_002769_00276B_00276B_00276D_00276D_00276F_00276F_002771_002771_002773_002773,
  0x002775_002775_0027C6_0027C6_0027E7_0027E7_0027E9_0027E9_0027EB_0027EB_0027ED_0027ED,
  0x0027EF_0027EF_002984_002984_002986_002986_002988_002988_00298A_00298A_00298C_00298C,
  0x00298E_00298E_002990_002990_002992_002992_002994_002994_002996_002996_002998_002998,
  0x0029D9_0029D9_0029DB_0029DB_0029FD_0029FD_002E23_002E23_002E25_002E25_002E27_002E27,
  0x002E29_002E29_002E56_002E56_002E58_002E58_002E5A_002E5A_002E5C_002E5C_003009_003009,
  0x00300B_00300B_00300D_00300D_00300F_00300F_003011_003011_003015_003015_003017_003017,
  0x003019_003019_00301B_00301B_00301E_00301F_00FD3E_00FD3E_00FE18_00FE18_00FE36_00FE36,
  0x00FE38_00FE38_00FE3A_00FE3A_00FE3C_00FE3C_00FE3E_00FE3E_00FE40_00FE40_00FE42_00FE42,
  0x00FE44_00FE44_00FE48_00FE48_00FE5A_00FE5A_00FE5C_00FE5C_00FE5E_00FE5E_00FF09_00FF09,
  0x00FF3D_00FF3D_00FF5D_00FF5D_00FF60_00FF60_00FF63_00FF63]

/-- Category Pi: initial punctuation. -/
def initialPunctuation : CharClass := .packed [
  0x0000AB_0000AB_002018_002018_00201B_00201C_00201F_00201F_002039_002039_002E02_002E02,
  0x002E04_002E04_002E09_002E09_002E0C_002E0C_002E1C_002E1C_002E20_002E20]

/-- Category Pf: final punctuation. -/
def finalPunctuation : CharClass := .packed [
  0x0000BB_0000BB_002019_002019_00201D_00201D_00203A_00203A_002E03_002E03_002E05_002E05,
  0x002E0A_002E0A_002E0D_002E0D_002E1D_002E1D_002E21_002E21]

/-- Category Po: other punctuation. -/
def otherPunctuation : CharClass := .packed [
  0x000021_000023_000025_000027_00002A_00002A_00002C_00002C_00002E_00002F_00003A_00003B,
  0x00003F_000040_00005C_00005C_0000A1_0000A1_0000A7_0000A7_0000B6_0000B7_0000BF_0000BF,
  0x00037E_00037E_000387_000387_00055A_00055F_000589_000589_0005C0_0005C0_0005C3_0005C3,
  0x0005C6_0005C6_0005F3_0005F4_000609_00060A_00060C_00060D_00061B_00061B_00061D_00061F,
  0x00066A_00066D_0006D4_0006D4_000700_00070D_0007F7_0007F9_000830_00083E_00085E_00085E,
  0x000964_000965_000970_000970_0009FD_0009FD_000A76_000A76_000AF0_000AF0_000C77_000C77,
  0x000C84_000C84_000DF4_000DF4_000E4F_000E4F_000E5A_000E5B_000F04_000F12_000F14_000F14,
  0x000F85_000F85_000FD0_000FD4_000FD9_000FDA_00104A_00104F_0010FB_0010FB_001360_001368,
  0x00166E_00166E_0016EB_0016ED_001735_001736_0017D4_0017D6_0017D8_0017DA_001800_001805,
  0x001807_00180A_001944_001945_001A1E_001A1F_001AA0_001AA6_001AA8_001AAD_001B4E_001B4F,
  0x001B5A_001B60_001B7D_001B7F_001BFC_001BFF_001C3B_001C3F_001C7E_001C7F_001CC0_001CC7,
  0x001CD3_001CD3_002016_002017_002020_002027_002030_002038_00203B_00203E_002041_002043,
  0x002047_002051_002053_002053_002055_00205E_002CF9_002CFC_002CFE_002CFF_002D70_002D70,
  0x002E00_002E01_002E06_002E08_002E0B_002E0B_002E0E_002E16_002E18_002E19_002E1B_002E1B,
  0x002E1E_002E1F_002E2A_002E2E_002E30_002E39_002E3C_002E3F_002E41_002E41_002E43_002E4F,
  0x002E52_002E54_003001_003003_00303D_00303D_0030FB_0030FB_00A4FE_00A4FF_00A60D_00A60F,
  0x00A673_00A673_00A67E_00A67E_00A6F2_00A6F7_00A874_00A877_00A8CE_00A8CF_00A8F8_00A8FA,
  0x00A8FC_00A8FC_00A92E_00A92F_00A95F_00A95F_00A9C1_00A9CD_00A9DE_00A9DF_00AA5C_00AA5F,
  0x00AADE_00AADF_00AAF0_00AAF1_00ABEB_00ABEB_00FE10_00FE16_00FE19_00FE19_00FE30_00FE30,
  0x00FE45_00FE46_00FE49_00FE4C_00FE50_00FE52_00FE54_00FE57_00FE5F_00FE61_00FE68_00FE68,
  0x00FE6A_00FE6B_00FF01_00FF03_00FF05_00FF07_00FF0A_00FF0A_00FF0C_00FF0C_00FF0E_00FF0F,
  0x00FF1A_00FF1B_00FF1F_00FF20_00FF3C_00FF3C_00FF61_00FF61_00FF64_00FF65_010100_010102,
  0x01039F_01039F_0103D0_0103D0_01056F_01056F_010857_010857_01091F_01091F_01093F_01093F,
  0x010A50_010A58_010A7F_010A7F_010AF0_010AF6_010B39_010B3F_010B99_010B9C_010F55_010F59,
  0x010F86_010F89_011047_01104D_0110BB_0110BC_0110BE_0110C1_011140_011143_011174_011175,
  0x0111C5_0111C8_0111CD_0111CD_0111DB_0111DB_0111DD_0111DF_011238_01123D_0112A9_0112A9,
  0x0113D4_0113D5_0113D7_0113D8_01144B_01144F_01145A_01145B_01145D_01145D_0114C6_0114C6,
  0x0115C1_0115D7_011641_011643_011660_01166C_0116B9_0116B9_01173C_01173E_01183B_01183B,
  0x011944_011946_0119E2_0119E2_011A3F_011A46_011A9A_011A9C_011A9E_011AA2_011B00_011B09,
  0x011BE1_011BE1_011C41_011C45_011C70_011C71_011EF7_011EF8_011F43_011F4F_011FFF_011FFF,
  0x012470_012474_012FF1_012FF2_016A6E_016A6F_016AF5_016AF5_016B37_016B3B_016B44_016B44,
  0x016D6D_016D6F_016E97_016E9A_016FE2_016FE2_01BC9F_01BC9F_01DA87_01DA8B_01E5FF_01E5FF,
  0x01E95E_01E95F]

/-- Category Sm: math symbol. -/
def mathSymbol : CharClass := .packed [
  0x00002B_00002B_00003C_00003E_00007C_00007C_00007E_00007E_0000AC_0000AC_0000B1_0000B1,
  0x0000D7_0000D7_0000F7_0000F7_0003F6_0003F6_000606_000608_002044_002044_002052_002052,
  0x00207A_00207C_00208A_00208C_002118_002118_002140_002144_00214B_00214B_002190_002194,
  0x00219A_00219B_0021A0_0021A0_0021A3_0021A3_0021A6_0021A6_0021AE_0021AE_0021CE_0021CF,
  0x0021D2_0021D2_0021D4_0021D4_0021F4_0022FF_002320_002321_00237C_00237C_00239B_0023B3,
  0x0023DC_0023E1_0025B7_0025B7_0025C1_0025C1_0025F8_0025FF_00266F_00266F_0027C0_0027C4,
  0x0027C7_0027E5_0027F0_0027FF_002900_002982_002999_0029D7_0029DC_0029FB_0029FE_002AFF,
  0x002B30_002B44_002B47_002B4C_00FB29_00FB29_00FE62_00FE62_00FE64_00FE66_00FF0B_00FF0B,
  0x00FF1C_00FF1E_00FF5C_00FF5C_00FF5E_00FF5E_00FFE2_00FFE2_00FFE9_00FFEC_010D8E_010D8F,
  0x01D6C1_01D6C1_01D6DB_01D6DB_01D6FB_01D6FB_01D715_01D715_01D735_01D735_01D74F_01D74F,
  0x01D76F_01D76F_01D789_01D789_01D7A9_01D7A9_01D7C3_01D7C3_01EEF0_01EEF1]

/-- Category Sc: currency symbol. -/
def currencySymbol : CharClass := .packed [
  0x000024_000024_0000A2_0000A5_00058F_00058F_00060B_00060B_0007FE_0007FF_0009F2_0009F3,
  0x0009FB_0009FB_000AF1_000AF1_000BF9_000BF9_000E3F_000E3F_0017DB_0017DB_0020A0_0020C0,
  0x00A838_00A838_00FDFC_00FDFC_00FE69_00FE69_00FF04_00FF04_00FFE0_00FFE1_00FFE5_00FFE6,
  0x011FDD_011FE0_01E2FF_01E2FF_01ECB0_01ECB0]

/-- Category Sk: modifier symbol. -/
def modifierSymbol : CharClass := .packed [
  0x00005E_00005E_000060_000060_0000A8_0000A8_0000AF_0000AF_0000B4_0000B4_0000B8_0000B8,
  0x0002C2_0002C5_0002D2_0002DF_0002E5_0002EB_0002ED_0002ED_0002EF_0002FF_000375_000375,
  0x000384_000385_000888_000888_001FBD_001FBD_001FBF_001FC1_001FCD_001FCF_001FDD_001FDF,
  0x001FED_001FEF_001FFD_001FFE_00309B_00309C_00A700_00A716_00A720_00A721_00A789_00A78A,
  0x00AB5B_00AB5B_00AB6A_00AB6B_00FBB2_00FBC2_00FF3E_00FF3E_00FF40_00FF40_00FFE3_00FFE3,
  0x01F3FB_01F3FF]

/-- Category So: other symbol. -/
def otherSymbol : CharClass := .packed [
  0x0000A6_0000A6_0000A9_0000A9_0000AE_0000AE_0000B0_0000B0_000482_000482_00058D_00058E,
  0x00060E_00060F_0006DE_0006DE_0006E9_0006E9_0006FD_0006FE_0007F6_0007F6_0009FA_0009FA,
  0x000B70_000B70_000BF3_000BF8_000BFA_000BFA_000C7F_000C7F_000D4F_000D4F_000D79_000D79,
  0x000F01_000F03_000F13_000F13_000F15_000F17_000F1A_000F1F_000F34_000F34_000F36_000F36,
  0x000F38_000F38_000FBE_000FC5_000FC7_000FCC_000FCE_000FCF_000FD5_000FD8_00109E_00109F,
  0x001390_001399_00166D_00166D_001940_001940_0019DE_0019FF_001B61_001B6A_001B74_001B7C,
  0x002100_002101_002103_002106_002108_002109_002114_002114_002116_002117_00211E_002123,
  0x002125_002125_002127_002127_002129_002129_00212E_00212E_00213A_00213B_00214A_00214A,
  0x00214C_00214D_00214F_00214F_00218A_00218B_002195_002199_00219C_00219F_0021A1_0021A2,
  0x0021A4_0021A5_0021A7_0021AD_0021AF_0021CD_0021D0_0021D1_0021D3_0021D3_0021D5_0021F3,
  0x002300_002307_00230C_00231F_002322_002328_00232B_00237B_00237D_00239A_0023B4_0023DB,
  0x0023E2_002429_002440_00244A_00249C_0024E9_002500_0025B6_0025B8_0025C0_0025C2_0025F7,
  0x002600_00266E_002670_002767_002794_0027BF_002800_0028FF_002B00_002B2F_002B45_002B46,
  0x002B4D_002B73_002B76_002B95_002B97_002BFF_002CE5_002CEA_002E50_002E51_002E80_002E99,
  0x002E9B_002EF3_002F00_002FD5_002FF0_002FFF_003004_003004_003012_003013_003020_003020,
  0x003036_003037_00303E_00303F_003190_003191_003196_00319F_0031C0_0031E5_0031EF_0031EF,
  0x003200_00321E_00322A_003247_003250_003250_003260_00327F_00328A_0032B0_0032C0_0033FF,
  0x004DC0_004DFF_00A490_00A4C6_00A828_00A82B_00A836_00A837_00A839_00A839_00AA77_00AA79,
  0x00FD40_00FD4F_00FDCF_00FDCF_00FDFD_00FDFF_00FFE4_00FFE4_00FFE8_00FFE8_00FFED_00FFEE,
  0x00FFFC_00FFFD_010137_01013F_010179_010189_01018C_01018E_010190_01019C_0101A0_0101A0,
  0x0101D0_0101FC_010877_010878_010AC8_010AC8_01173F_01173F_011FD5_011FDC_011FE1_011FF1,
  0x016B3C_016B3F_016B45_016B45_01BC9C_01BC9C_01CC00_01CCEF_01CD00_01CEB3_01CF50_01CFC3,
  0x01D000_01D0F5_01D100_01D126_01D129_01D164_01D16A_01D16C_01D183_01D184_01D18C_01D1A9,
  0x01D1AE_01D1EA_01D200_01D241_01D245_01D245_01D300_01D356_01D800_01D9FF_01DA37_01DA3A,
  0x01DA6D_01DA74_01DA76_01DA83_01DA85_01DA86_01E14F_01E14F_01ECAC_01ECAC_01ED2E_01ED2E,
  0x01F000_01F02B_01F030_01F093_01F0A0_01F0AE_01F0B1_01F0BF_01F0C1_01F0CF_01F0D1_01F0F5,
  0x01F10D_01F1AD_01F1E6_01F202_01F210_01F23B_01F240_01F248_01F250_01F251_01F260_01F265,
  0x01F300_01F3FA_01F400_01F6D7_01F6DC_01F6EC_01F6F0_01F6FC_01F700_01F776_01F77B_01F7D9,
  0x01F7E0_01F7EB_01F7F0_01F7F0_01F800_01F80B_01F810_01F847_01F850_01F859_01F860_01F887,
  0x01F890_01F8AD_01F8B0_01F8BB_01F8C0_01F8C1_01F900_01FA53_01FA60_01FA6D_01FA70_01FA7C,
  0x01FA80_01FA89_01FA8F_01FAC6_01FACE_01FADC_01FADF_01FAE9_01FAF0_01FAF8_01FB00_01FB92,
  0x01FB94_01FBEF]

/-- Category Zs: space separator. -/
def spaceSeparator : CharClass := .packed [
  0x000020_000020_0000A0_0000A0_001680_001680_002000_00200A_00202F_00202F_00205F_00205F,
  0x003000_003000]

/-- Category Zl: line separator. -/
def lineSeparator : CharClass := .packed [
  0x002028_002028]

/-- Category Zp: paragraph separator. -/
def paragraphSeparator : CharClass := .packed [
  0x002029_002029]

/-- Category Cc: control. -/
def control : CharClass := .packed [
  0x000000_00001F_00007F_00009F]

/-- Category Cf: format. -/
def format : CharClass := .packed [
  0x0000AD_0000AD_000600_000605_00061C_00061C_0006DD_0006DD_00070F_00070F_000890_000891,
  0x0008E2_0008E2_00180E_00180E_00200B_00200F_00202A_00202E_002060_002064_002066_00206F,
  0x00FEFF_00FEFF_00FFF9_00FFFB_0110BD_0110BD_0110CD_0110CD_013430_01343F_01BCA0_01BCA3,
  0x01D173_01D17A_0E0001_0E0001_0E0020_0E007F]

/-- Category Cs: surrogate. -/
def surrogate : CharClass := .packed [
  0x00D800_00DFFF]

/-- Category Co: private use. -/
def privateUse : CharClass := .packed [
  0x00E000_00F8FF_0F0000_0FFFFD_100000_10FFFD]

/-! ## 2. Groups of categories -/

/-- Letters with a case distinction. -/
def casedLetter : CharClass := .unions [uppercaseLetter, lowercaseLetter, titlecaseLetter]

/-- Letters of every kind. -/
def letter : CharClass := .unions [casedLetter, modifierLetter, otherLetter]

/-- Marks, which combine with the character before them. -/
def mark : CharClass := .unions [nonspacingMark, spacingMark, enclosingMark]

/-- Numbers of every kind. -/
def number : CharClass := .unions [decimalNumber, letterNumber, otherNumber]

/-- Punctuation of every kind. -/
def punctuation : CharClass :=
  .unions [connectorPunctuation, dashPunctuation, openPunctuation, closePunctuation,
    initialPunctuation, finalPunctuation, otherPunctuation]

/-- Symbols of every kind. -/
def symbol : CharClass := .unions [mathSymbol, currencySymbol, modifierSymbol, otherSymbol]

/-- Separators of every kind. -/
def separator : CharClass := .unions [spaceSeparator, lineSeparator, paragraphSeparator]

/-- Code points to which a character, a control or a use is assigned. -/
def assigned : CharClass :=
  .unions [letter, mark, number, punctuation, symbol, separator, control, format, surrogate,
    privateUse]

/-- Code points without an assignment. -/
def unassigned : CharClass := .compl assigned

/-- Controls, formats, private-use and unassigned code points. -/
def other : CharClass := .unions [control, format, surrogate, privateUse, unassigned]

end Verdict.Unicode.GeneralCategory
