import Bindery.Text.CodeRange

/-!
# Characters with no printed form

The Unicode general categories Cc, Cf, Co, Cn, Zl, Zp and Zs beyond ASCII, version 17.0, as ranges
in increasing order.  Quoted text writes such characters by number.
-/

namespace Bindery.Text

/-- The code points beyond ASCII that are controls, formats, separators, private or unassigned. -/
def unprintableRanges : List CodeRange :=
  [⟨0x7F, 0xA0, 1⟩, ⟨0xAD, 0xAD, 1⟩, ⟨0x378, 0x379, 1⟩, ⟨0x380, 0x383, 1⟩, ⟨0x38B, 0x38B, 1⟩,
   ⟨0x38D, 0x38D, 1⟩, ⟨0x3A2, 0x3A2, 1⟩, ⟨0x530, 0x530, 1⟩, ⟨0x557, 0x558, 1⟩, ⟨0x58B, 0x58C, 1⟩,
   ⟨0x590, 0x590, 1⟩, ⟨0x5C8, 0x5CF, 1⟩, ⟨0x5EB, 0x5EE, 1⟩, ⟨0x5F5, 0x605, 1⟩, ⟨0x61C, 0x61C, 1⟩,
   ⟨0x6DD, 0x6DD, 1⟩, ⟨0x70E, 0x70F, 1⟩, ⟨0x74B, 0x74C, 1⟩, ⟨0x7B2, 0x7BF, 1⟩, ⟨0x7FB, 0x7FC, 1⟩,
   ⟨0x82E, 0x82F, 1⟩, ⟨0x83F, 0x83F, 1⟩, ⟨0x85C, 0x85D, 1⟩, ⟨0x85F, 0x85F, 1⟩, ⟨0x86B, 0x86F, 1⟩,
   ⟨0x890, 0x896, 1⟩, ⟨0x8E2, 0x8E2, 1⟩, ⟨0x984, 0x984, 1⟩, ⟨0x98D, 0x98E, 1⟩, ⟨0x991, 0x992, 1⟩,
   ⟨0x9A9, 0x9A9, 1⟩, ⟨0x9B1, 0x9B1, 1⟩, ⟨0x9B3, 0x9B5, 1⟩, ⟨0x9BA, 0x9BB, 1⟩, ⟨0x9C5, 0x9C6, 1⟩,
   ⟨0x9C9, 0x9CA, 1⟩, ⟨0x9CF, 0x9D6, 1⟩, ⟨0x9D8, 0x9DB, 1⟩, ⟨0x9DE, 0x9DE, 1⟩, ⟨0x9E4, 0x9E5, 1⟩,
   ⟨0x9FF, 0xA00, 1⟩, ⟨0xA04, 0xA04, 1⟩, ⟨0xA0B, 0xA0E, 1⟩, ⟨0xA11, 0xA12, 1⟩, ⟨0xA29, 0xA29, 1⟩,
   ⟨0xA31, 0xA31, 1⟩, ⟨0xA34, 0xA34, 1⟩, ⟨0xA37, 0xA37, 1⟩, ⟨0xA3A, 0xA3B, 1⟩, ⟨0xA3D, 0xA3D, 1⟩,
   ⟨0xA43, 0xA46, 1⟩, ⟨0xA49, 0xA4A, 1⟩, ⟨0xA4E, 0xA50, 1⟩, ⟨0xA52, 0xA58, 1⟩, ⟨0xA5D, 0xA5D, 1⟩,
   ⟨0xA5F, 0xA65, 1⟩, ⟨0xA77, 0xA80, 1⟩, ⟨0xA84, 0xA84, 1⟩, ⟨0xA8E, 0xA8E, 1⟩, ⟨0xA92, 0xA92, 1⟩,
   ⟨0xAA9, 0xAA9, 1⟩, ⟨0xAB1, 0xAB1, 1⟩, ⟨0xAB4, 0xAB4, 1⟩, ⟨0xABA, 0xABB, 1⟩, ⟨0xAC6, 0xAC6, 1⟩,
   ⟨0xACA, 0xACA, 1⟩, ⟨0xACE, 0xACF, 1⟩, ⟨0xAD1, 0xADF, 1⟩, ⟨0xAE4, 0xAE5, 1⟩, ⟨0xAF2, 0xAF8, 1⟩,
   ⟨0xB00, 0xB00, 1⟩, ⟨0xB04, 0xB04, 1⟩, ⟨0xB0D, 0xB0E, 1⟩, ⟨0xB11, 0xB12, 1⟩, ⟨0xB29, 0xB29, 1⟩,
   ⟨0xB31, 0xB31, 1⟩, ⟨0xB34, 0xB34, 1⟩, ⟨0xB3A, 0xB3B, 1⟩, ⟨0xB45, 0xB46, 1⟩, ⟨0xB49, 0xB4A, 1⟩,
   ⟨0xB4E, 0xB54, 1⟩, ⟨0xB58, 0xB5B, 1⟩, ⟨0xB5E, 0xB5E, 1⟩, ⟨0xB64, 0xB65, 1⟩, ⟨0xB78, 0xB81, 1⟩,
   ⟨0xB84, 0xB84, 1⟩, ⟨0xB8B, 0xB8D, 1⟩, ⟨0xB91, 0xB91, 1⟩, ⟨0xB96, 0xB98, 1⟩, ⟨0xB9B, 0xB9B, 1⟩,
   ⟨0xB9D, 0xB9D, 1⟩, ⟨0xBA0, 0xBA2, 1⟩, ⟨0xBA5, 0xBA7, 1⟩, ⟨0xBAB, 0xBAD, 1⟩, ⟨0xBBA, 0xBBD, 1⟩,
   ⟨0xBC3, 0xBC5, 1⟩, ⟨0xBC9, 0xBC9, 1⟩, ⟨0xBCE, 0xBCF, 1⟩, ⟨0xBD1, 0xBD6, 1⟩, ⟨0xBD8, 0xBE5, 1⟩,
   ⟨0xBFB, 0xBFF, 1⟩, ⟨0xC0D, 0xC0D, 1⟩, ⟨0xC11, 0xC11, 1⟩, ⟨0xC29, 0xC29, 1⟩, ⟨0xC3A, 0xC3B, 1⟩,
   ⟨0xC45, 0xC45, 1⟩, ⟨0xC49, 0xC49, 1⟩, ⟨0xC4E, 0xC54, 1⟩, ⟨0xC57, 0xC57, 1⟩, ⟨0xC5B, 0xC5B, 1⟩,
   ⟨0xC5E, 0xC5F, 1⟩, ⟨0xC64, 0xC65, 1⟩, ⟨0xC70, 0xC76, 1⟩, ⟨0xC8D, 0xC8D, 1⟩, ⟨0xC91, 0xC91, 1⟩,
   ⟨0xCA9, 0xCA9, 1⟩, ⟨0xCB4, 0xCB4, 1⟩, ⟨0xCBA, 0xCBB, 1⟩, ⟨0xCC5, 0xCC5, 1⟩, ⟨0xCC9, 0xCC9, 1⟩,
   ⟨0xCCE, 0xCD4, 1⟩, ⟨0xCD7, 0xCDB, 1⟩, ⟨0xCDF, 0xCDF, 1⟩, ⟨0xCE4, 0xCE5, 1⟩, ⟨0xCF0, 0xCF0, 1⟩,
   ⟨0xCF4, 0xCFF, 1⟩, ⟨0xD0D, 0xD0D, 1⟩, ⟨0xD11, 0xD11, 1⟩, ⟨0xD45, 0xD45, 1⟩, ⟨0xD49, 0xD49, 1⟩,
   ⟨0xD50, 0xD53, 1⟩, ⟨0xD64, 0xD65, 1⟩, ⟨0xD80, 0xD80, 1⟩, ⟨0xD84, 0xD84, 1⟩, ⟨0xD97, 0xD99, 1⟩,
   ⟨0xDB2, 0xDB2, 1⟩, ⟨0xDBC, 0xDBC, 1⟩, ⟨0xDBE, 0xDBF, 1⟩, ⟨0xDC7, 0xDC9, 1⟩, ⟨0xDCB, 0xDCE, 1⟩,
   ⟨0xDD5, 0xDD5, 1⟩, ⟨0xDD7, 0xDD7, 1⟩, ⟨0xDE0, 0xDE5, 1⟩, ⟨0xDF0, 0xDF1, 1⟩, ⟨0xDF5, 0xE00, 1⟩,
   ⟨0xE3B, 0xE3E, 1⟩, ⟨0xE5C, 0xE80, 1⟩, ⟨0xE83, 0xE83, 1⟩, ⟨0xE85, 0xE85, 1⟩, ⟨0xE8B, 0xE8B, 1⟩,
   ⟨0xEA4, 0xEA4, 1⟩, ⟨0xEA6, 0xEA6, 1⟩, ⟨0xEBE, 0xEBF, 1⟩, ⟨0xEC5, 0xEC5, 1⟩, ⟨0xEC7, 0xEC7, 1⟩,
   ⟨0xECF, 0xECF, 1⟩, ⟨0xEDA, 0xEDB, 1⟩, ⟨0xEE0, 0xEFF, 1⟩, ⟨0xF48, 0xF48, 1⟩, ⟨0xF6D, 0xF70, 1⟩,
   ⟨0xF98, 0xF98, 1⟩, ⟨0xFBD, 0xFBD, 1⟩, ⟨0xFCD, 0xFCD, 1⟩, ⟨0xFDB, 0xFFF, 1⟩,
   ⟨0x10C6, 0x10C6, 1⟩, ⟨0x10C8, 0x10CC, 1⟩, ⟨0x10CE, 0x10CF, 1⟩, ⟨0x1249, 0x1249, 1⟩,
   ⟨0x124E, 0x124F, 1⟩, ⟨0x1257, 0x1257, 1⟩, ⟨0x1259, 0x1259, 1⟩, ⟨0x125E, 0x125F, 1⟩,
   ⟨0x1289, 0x1289, 1⟩, ⟨0x128E, 0x128F, 1⟩, ⟨0x12B1, 0x12B1, 1⟩, ⟨0x12B6, 0x12B7, 1⟩,
   ⟨0x12BF, 0x12BF, 1⟩, ⟨0x12C1, 0x12C1, 1⟩, ⟨0x12C6, 0x12C7, 1⟩, ⟨0x12D7, 0x12D7, 1⟩,
   ⟨0x1311, 0x1311, 1⟩, ⟨0x1316, 0x1317, 1⟩, ⟨0x135B, 0x135C, 1⟩, ⟨0x137D, 0x137F, 1⟩,
   ⟨0x139A, 0x139F, 1⟩, ⟨0x13F6, 0x13F7, 1⟩, ⟨0x13FE, 0x13FF, 1⟩, ⟨0x1680, 0x1680, 1⟩,
   ⟨0x169D, 0x169F, 1⟩, ⟨0x16F9, 0x16FF, 1⟩, ⟨0x1716, 0x171E, 1⟩, ⟨0x1737, 0x173F, 1⟩,
   ⟨0x1754, 0x175F, 1⟩, ⟨0x176D, 0x176D, 1⟩, ⟨0x1771, 0x1771, 1⟩, ⟨0x1774, 0x177F, 1⟩,
   ⟨0x17DE, 0x17DF, 1⟩, ⟨0x17EA, 0x17EF, 1⟩, ⟨0x17FA, 0x17FF, 1⟩, ⟨0x180E, 0x180E, 1⟩,
   ⟨0x181A, 0x181F, 1⟩, ⟨0x1879, 0x187F, 1⟩, ⟨0x18AB, 0x18AF, 1⟩, ⟨0x18F6, 0x18FF, 1⟩,
   ⟨0x191F, 0x191F, 1⟩, ⟨0x192C, 0x192F, 1⟩, ⟨0x193C, 0x193F, 1⟩, ⟨0x1941, 0x1943, 1⟩,
   ⟨0x196E, 0x196F, 1⟩, ⟨0x1975, 0x197F, 1⟩, ⟨0x19AC, 0x19AF, 1⟩, ⟨0x19CA, 0x19CF, 1⟩,
   ⟨0x19DB, 0x19DD, 1⟩, ⟨0x1A1C, 0x1A1D, 1⟩, ⟨0x1A5F, 0x1A5F, 1⟩, ⟨0x1A7D, 0x1A7E, 1⟩,
   ⟨0x1A8A, 0x1A8F, 1⟩, ⟨0x1A9A, 0x1A9F, 1⟩, ⟨0x1AAE, 0x1AAF, 1⟩, ⟨0x1ADE, 0x1ADF, 1⟩,
   ⟨0x1AEC, 0x1AFF, 1⟩, ⟨0x1B4D, 0x1B4D, 1⟩, ⟨0x1BF4, 0x1BFB, 1⟩, ⟨0x1C38, 0x1C3A, 1⟩,
   ⟨0x1C4A, 0x1C4C, 1⟩, ⟨0x1C8B, 0x1C8F, 1⟩, ⟨0x1CBB, 0x1CBC, 1⟩, ⟨0x1CC8, 0x1CCF, 1⟩,
   ⟨0x1CFB, 0x1CFF, 1⟩, ⟨0x1F16, 0x1F17, 1⟩, ⟨0x1F1E, 0x1F1F, 1⟩, ⟨0x1F46, 0x1F47, 1⟩,
   ⟨0x1F4E, 0x1F4F, 1⟩, ⟨0x1F58, 0x1F5E, 2⟩, ⟨0x1F7E, 0x1F7F, 1⟩, ⟨0x1FB5, 0x1FB5, 1⟩,
   ⟨0x1FC5, 0x1FC5, 1⟩, ⟨0x1FD4, 0x1FD5, 1⟩, ⟨0x1FDC, 0x1FDC, 1⟩, ⟨0x1FF0, 0x1FF1, 1⟩,
   ⟨0x1FF5, 0x1FF5, 1⟩, ⟨0x1FFF, 0x200F, 1⟩, ⟨0x2028, 0x202F, 1⟩, ⟨0x205F, 0x206F, 1⟩,
   ⟨0x2072, 0x2073, 1⟩, ⟨0x208F, 0x208F, 1⟩, ⟨0x209D, 0x209F, 1⟩, ⟨0x20C2, 0x20CF, 1⟩,
   ⟨0x20F1, 0x20FF, 1⟩, ⟨0x218C, 0x218F, 1⟩, ⟨0x242A, 0x243F, 1⟩, ⟨0x244B, 0x245F, 1⟩,
   ⟨0x2B74, 0x2B75, 1⟩, ⟨0x2CF4, 0x2CF8, 1⟩, ⟨0x2D26, 0x2D26, 1⟩, ⟨0x2D28, 0x2D2C, 1⟩,
   ⟨0x2D2E, 0x2D2F, 1⟩, ⟨0x2D68, 0x2D6E, 1⟩, ⟨0x2D71, 0x2D7E, 1⟩, ⟨0x2D97, 0x2D9F, 1⟩,
   ⟨0x2DA7, 0x2DA7, 1⟩, ⟨0x2DAF, 0x2DAF, 1⟩, ⟨0x2DB7, 0x2DB7, 1⟩, ⟨0x2DBF, 0x2DBF, 1⟩,
   ⟨0x2DC7, 0x2DC7, 1⟩, ⟨0x2DCF, 0x2DCF, 1⟩, ⟨0x2DD7, 0x2DD7, 1⟩, ⟨0x2DDF, 0x2DDF, 1⟩,
   ⟨0x2E5E, 0x2E7F, 1⟩, ⟨0x2E9A, 0x2E9A, 1⟩, ⟨0x2EF4, 0x2EFF, 1⟩, ⟨0x2FD6, 0x2FEF, 1⟩,
   ⟨0x3000, 0x3000, 1⟩, ⟨0x3040, 0x3040, 1⟩, ⟨0x3097, 0x3098, 1⟩, ⟨0x3100, 0x3104, 1⟩,
   ⟨0x3130, 0x3130, 1⟩, ⟨0x318F, 0x318F, 1⟩, ⟨0x31E6, 0x31EE, 1⟩, ⟨0x321F, 0x321F, 1⟩,
   ⟨0xA48D, 0xA48F, 1⟩, ⟨0xA4C7, 0xA4CF, 1⟩, ⟨0xA62C, 0xA63F, 1⟩, ⟨0xA6F8, 0xA6FF, 1⟩,
   ⟨0xA7DD, 0xA7F0, 1⟩, ⟨0xA82D, 0xA82F, 1⟩, ⟨0xA83A, 0xA83F, 1⟩, ⟨0xA878, 0xA87F, 1⟩,
   ⟨0xA8C6, 0xA8CD, 1⟩, ⟨0xA8DA, 0xA8DF, 1⟩, ⟨0xA954, 0xA95E, 1⟩, ⟨0xA97D, 0xA97F, 1⟩,
   ⟨0xA9CE, 0xA9CE, 1⟩, ⟨0xA9DA, 0xA9DD, 1⟩, ⟨0xA9FF, 0xA9FF, 1⟩, ⟨0xAA37, 0xAA3F, 1⟩,
   ⟨0xAA4E, 0xAA4F, 1⟩, ⟨0xAA5A, 0xAA5B, 1⟩, ⟨0xAAC3, 0xAADA, 1⟩, ⟨0xAAF7, 0xAB00, 1⟩,
   ⟨0xAB07, 0xAB08, 1⟩, ⟨0xAB0F, 0xAB10, 1⟩, ⟨0xAB17, 0xAB1F, 1⟩, ⟨0xAB27, 0xAB27, 1⟩,
   ⟨0xAB2F, 0xAB2F, 1⟩, ⟨0xAB6C, 0xAB6F, 1⟩, ⟨0xABEE, 0xABEF, 1⟩, ⟨0xABFA, 0xABFF, 1⟩,
   ⟨0xD7A4, 0xD7AF, 1⟩, ⟨0xD7C7, 0xD7CA, 1⟩, ⟨0xD7FC, 0xD7FF, 1⟩, ⟨0xE000, 0xF8FF, 1⟩,
   ⟨0xFA6E, 0xFA6F, 1⟩, ⟨0xFADA, 0xFAFF, 1⟩, ⟨0xFB07, 0xFB12, 1⟩, ⟨0xFB18, 0xFB1C, 1⟩,
   ⟨0xFB37, 0xFB37, 1⟩, ⟨0xFB3D, 0xFB3D, 1⟩, ⟨0xFB3F, 0xFB3F, 1⟩, ⟨0xFB42, 0xFB42, 1⟩,
   ⟨0xFB45, 0xFB45, 1⟩, ⟨0xFDD0, 0xFDEF, 1⟩, ⟨0xFE1A, 0xFE1F, 1⟩, ⟨0xFE53, 0xFE53, 1⟩,
   ⟨0xFE67, 0xFE67, 1⟩, ⟨0xFE6C, 0xFE6F, 1⟩, ⟨0xFE75, 0xFE75, 1⟩, ⟨0xFEFD, 0xFF00, 1⟩,
   ⟨0xFFBF, 0xFFC1, 1⟩, ⟨0xFFC8, 0xFFC9, 1⟩, ⟨0xFFD0, 0xFFD1, 1⟩, ⟨0xFFD8, 0xFFD9, 1⟩,
   ⟨0xFFDD, 0xFFDF, 1⟩, ⟨0xFFE7, 0xFFE7, 1⟩, ⟨0xFFEF, 0xFFFB, 1⟩, ⟨0xFFFE, 0xFFFF, 1⟩,
   ⟨0x1000C, 0x1000C, 1⟩, ⟨0x10027, 0x10027, 1⟩, ⟨0x1003B, 0x1003B, 1⟩, ⟨0x1003E, 0x1003E, 1⟩,
   ⟨0x1004E, 0x1004F, 1⟩, ⟨0x1005E, 0x1007F, 1⟩, ⟨0x100FB, 0x100FF, 1⟩, ⟨0x10103, 0x10106, 1⟩,
   ⟨0x10134, 0x10136, 1⟩, ⟨0x1018F, 0x1018F, 1⟩, ⟨0x1019D, 0x1019F, 1⟩, ⟨0x101A1, 0x101CF, 1⟩,
   ⟨0x101FE, 0x1027F, 1⟩, ⟨0x1029D, 0x1029F, 1⟩, ⟨0x102D1, 0x102DF, 1⟩, ⟨0x102FC, 0x102FF, 1⟩,
   ⟨0x10324, 0x1032C, 1⟩, ⟨0x1034B, 0x1034F, 1⟩, ⟨0x1037B, 0x1037F, 1⟩, ⟨0x1039E, 0x1039E, 1⟩,
   ⟨0x103C4, 0x103C7, 1⟩, ⟨0x103D6, 0x103FF, 1⟩, ⟨0x1049E, 0x1049F, 1⟩, ⟨0x104AA, 0x104AF, 1⟩,
   ⟨0x104D4, 0x104D7, 1⟩, ⟨0x104FC, 0x104FF, 1⟩, ⟨0x10528, 0x1052F, 1⟩, ⟨0x10564, 0x1056E, 1⟩,
   ⟨0x1057B, 0x1057B, 1⟩, ⟨0x1058B, 0x1058B, 1⟩, ⟨0x10593, 0x10593, 1⟩, ⟨0x10596, 0x10596, 1⟩,
   ⟨0x105A2, 0x105A2, 1⟩, ⟨0x105B2, 0x105B2, 1⟩, ⟨0x105BA, 0x105BA, 1⟩, ⟨0x105BD, 0x105BF, 1⟩,
   ⟨0x105F4, 0x105FF, 1⟩, ⟨0x10737, 0x1073F, 1⟩, ⟨0x10756, 0x1075F, 1⟩, ⟨0x10768, 0x1077F, 1⟩,
   ⟨0x10786, 0x10786, 1⟩, ⟨0x107B1, 0x107B1, 1⟩, ⟨0x107BB, 0x107FF, 1⟩, ⟨0x10806, 0x10807, 1⟩,
   ⟨0x10809, 0x10809, 1⟩, ⟨0x10836, 0x10836, 1⟩, ⟨0x10839, 0x1083B, 1⟩, ⟨0x1083D, 0x1083E, 1⟩,
   ⟨0x10856, 0x10856, 1⟩, ⟨0x1089F, 0x108A6, 1⟩, ⟨0x108B0, 0x108DF, 1⟩, ⟨0x108F3, 0x108F3, 1⟩,
   ⟨0x108F6, 0x108FA, 1⟩, ⟨0x1091C, 0x1091E, 1⟩, ⟨0x1093A, 0x1093E, 1⟩, ⟨0x1095A, 0x1097F, 1⟩,
   ⟨0x109B8, 0x109BB, 1⟩, ⟨0x109D0, 0x109D1, 1⟩, ⟨0x10A04, 0x10A04, 1⟩, ⟨0x10A07, 0x10A0B, 1⟩,
   ⟨0x10A14, 0x10A14, 1⟩, ⟨0x10A18, 0x10A18, 1⟩, ⟨0x10A36, 0x10A37, 1⟩, ⟨0x10A3B, 0x10A3E, 1⟩,
   ⟨0x10A49, 0x10A4F, 1⟩, ⟨0x10A59, 0x10A5F, 1⟩, ⟨0x10AA0, 0x10ABF, 1⟩, ⟨0x10AE7, 0x10AEA, 1⟩,
   ⟨0x10AF7, 0x10AFF, 1⟩, ⟨0x10B36, 0x10B38, 1⟩, ⟨0x10B56, 0x10B57, 1⟩, ⟨0x10B73, 0x10B77, 1⟩,
   ⟨0x10B92, 0x10B98, 1⟩, ⟨0x10B9D, 0x10BA8, 1⟩, ⟨0x10BB0, 0x10BFF, 1⟩, ⟨0x10C49, 0x10C7F, 1⟩,
   ⟨0x10CB3, 0x10CBF, 1⟩, ⟨0x10CF3, 0x10CF9, 1⟩, ⟨0x10D28, 0x10D2F, 1⟩, ⟨0x10D3A, 0x10D3F, 1⟩,
   ⟨0x10D66, 0x10D68, 1⟩, ⟨0x10D86, 0x10D8D, 1⟩, ⟨0x10D90, 0x10E5F, 1⟩, ⟨0x10E7F, 0x10E7F, 1⟩,
   ⟨0x10EAA, 0x10EAA, 1⟩, ⟨0x10EAE, 0x10EAF, 1⟩, ⟨0x10EB2, 0x10EC1, 1⟩, ⟨0x10EC8, 0x10ECF, 1⟩,
   ⟨0x10ED9, 0x10EF9, 1⟩, ⟨0x10F28, 0x10F2F, 1⟩, ⟨0x10F5A, 0x10F6F, 1⟩, ⟨0x10F8A, 0x10FAF, 1⟩,
   ⟨0x10FCC, 0x10FDF, 1⟩, ⟨0x10FF7, 0x10FFF, 1⟩, ⟨0x1104E, 0x11051, 1⟩, ⟨0x11076, 0x1107E, 1⟩,
   ⟨0x110BD, 0x110BD, 1⟩, ⟨0x110C3, 0x110CF, 1⟩, ⟨0x110E9, 0x110EF, 1⟩, ⟨0x110FA, 0x110FF, 1⟩,
   ⟨0x11135, 0x11135, 1⟩, ⟨0x11148, 0x1114F, 1⟩, ⟨0x11177, 0x1117F, 1⟩, ⟨0x111E0, 0x111E0, 1⟩,
   ⟨0x111F5, 0x111FF, 1⟩, ⟨0x11212, 0x11212, 1⟩, ⟨0x11242, 0x1127F, 1⟩, ⟨0x11287, 0x11287, 1⟩,
   ⟨0x11289, 0x11289, 1⟩, ⟨0x1128E, 0x1128E, 1⟩, ⟨0x1129E, 0x1129E, 1⟩, ⟨0x112AA, 0x112AF, 1⟩,
   ⟨0x112EB, 0x112EF, 1⟩, ⟨0x112FA, 0x112FF, 1⟩, ⟨0x11304, 0x11304, 1⟩, ⟨0x1130D, 0x1130E, 1⟩,
   ⟨0x11311, 0x11312, 1⟩, ⟨0x11329, 0x11329, 1⟩, ⟨0x11331, 0x11331, 1⟩, ⟨0x11334, 0x11334, 1⟩,
   ⟨0x1133A, 0x1133A, 1⟩, ⟨0x11345, 0x11346, 1⟩, ⟨0x11349, 0x1134A, 1⟩, ⟨0x1134E, 0x1134F, 1⟩,
   ⟨0x11351, 0x11356, 1⟩, ⟨0x11358, 0x1135C, 1⟩, ⟨0x11364, 0x11365, 1⟩, ⟨0x1136D, 0x1136F, 1⟩,
   ⟨0x11375, 0x1137F, 1⟩, ⟨0x1138A, 0x1138A, 1⟩, ⟨0x1138C, 0x1138D, 1⟩, ⟨0x1138F, 0x1138F, 1⟩,
   ⟨0x113B6, 0x113B6, 1⟩, ⟨0x113C1, 0x113C1, 1⟩, ⟨0x113C3, 0x113C4, 1⟩, ⟨0x113C6, 0x113C6, 1⟩,
   ⟨0x113CB, 0x113CB, 1⟩, ⟨0x113D6, 0x113D6, 1⟩, ⟨0x113D9, 0x113E0, 1⟩, ⟨0x113E3, 0x113FF, 1⟩,
   ⟨0x1145C, 0x1145C, 1⟩, ⟨0x11462, 0x1147F, 1⟩, ⟨0x114C8, 0x114CF, 1⟩, ⟨0x114DA, 0x1157F, 1⟩,
   ⟨0x115B6, 0x115B7, 1⟩, ⟨0x115DE, 0x115FF, 1⟩, ⟨0x11645, 0x1164F, 1⟩, ⟨0x1165A, 0x1165F, 1⟩,
   ⟨0x1166D, 0x1167F, 1⟩, ⟨0x116BA, 0x116BF, 1⟩, ⟨0x116CA, 0x116CF, 1⟩, ⟨0x116E4, 0x116FF, 1⟩,
   ⟨0x1171B, 0x1171C, 1⟩, ⟨0x1172C, 0x1172F, 1⟩, ⟨0x11747, 0x117FF, 1⟩, ⟨0x1183C, 0x1189F, 1⟩,
   ⟨0x118F3, 0x118FE, 1⟩, ⟨0x11907, 0x11908, 1⟩, ⟨0x1190A, 0x1190B, 1⟩, ⟨0x11914, 0x11914, 1⟩,
   ⟨0x11917, 0x11917, 1⟩, ⟨0x11936, 0x11936, 1⟩, ⟨0x11939, 0x1193A, 1⟩, ⟨0x11947, 0x1194F, 1⟩,
   ⟨0x1195A, 0x1199F, 1⟩, ⟨0x119A8, 0x119A9, 1⟩, ⟨0x119D8, 0x119D9, 1⟩, ⟨0x119E5, 0x119FF, 1⟩,
   ⟨0x11A48, 0x11A4F, 1⟩, ⟨0x11AA3, 0x11AAF, 1⟩, ⟨0x11AF9, 0x11AFF, 1⟩, ⟨0x11B0A, 0x11B5F, 1⟩,
   ⟨0x11B68, 0x11BBF, 1⟩, ⟨0x11BE2, 0x11BEF, 1⟩, ⟨0x11BFA, 0x11BFF, 1⟩, ⟨0x11C09, 0x11C09, 1⟩,
   ⟨0x11C37, 0x11C37, 1⟩, ⟨0x11C46, 0x11C4F, 1⟩, ⟨0x11C6D, 0x11C6F, 1⟩, ⟨0x11C90, 0x11C91, 1⟩,
   ⟨0x11CA8, 0x11CA8, 1⟩, ⟨0x11CB7, 0x11CFF, 1⟩, ⟨0x11D07, 0x11D07, 1⟩, ⟨0x11D0A, 0x11D0A, 1⟩,
   ⟨0x11D37, 0x11D39, 1⟩, ⟨0x11D3B, 0x11D3B, 1⟩, ⟨0x11D3E, 0x11D3E, 1⟩, ⟨0x11D48, 0x11D4F, 1⟩,
   ⟨0x11D5A, 0x11D5F, 1⟩, ⟨0x11D66, 0x11D66, 1⟩, ⟨0x11D69, 0x11D69, 1⟩, ⟨0x11D8F, 0x11D8F, 1⟩,
   ⟨0x11D92, 0x11D92, 1⟩, ⟨0x11D99, 0x11D9F, 1⟩, ⟨0x11DAA, 0x11DAF, 1⟩, ⟨0x11DDC, 0x11DDF, 1⟩,
   ⟨0x11DEA, 0x11EDF, 1⟩, ⟨0x11EF9, 0x11EFF, 1⟩, ⟨0x11F11, 0x11F11, 1⟩, ⟨0x11F3B, 0x11F3D, 1⟩,
   ⟨0x11F5B, 0x11FAF, 1⟩, ⟨0x11FB1, 0x11FBF, 1⟩, ⟨0x11FF2, 0x11FFE, 1⟩, ⟨0x1239A, 0x123FF, 1⟩,
   ⟨0x1246F, 0x1246F, 1⟩, ⟨0x12475, 0x1247F, 1⟩, ⟨0x12544, 0x12F8F, 1⟩, ⟨0x12FF3, 0x12FFF, 1⟩,
   ⟨0x13430, 0x1343F, 1⟩, ⟨0x13456, 0x1345F, 1⟩, ⟨0x143FB, 0x143FF, 1⟩, ⟨0x14647, 0x160FF, 1⟩,
   ⟨0x1613A, 0x167FF, 1⟩, ⟨0x16A39, 0x16A3F, 1⟩, ⟨0x16A5F, 0x16A5F, 1⟩, ⟨0x16A6A, 0x16A6D, 1⟩,
   ⟨0x16ABF, 0x16ABF, 1⟩, ⟨0x16ACA, 0x16ACF, 1⟩, ⟨0x16AEE, 0x16AEF, 1⟩, ⟨0x16AF6, 0x16AFF, 1⟩,
   ⟨0x16B46, 0x16B4F, 1⟩, ⟨0x16B5A, 0x16B5A, 1⟩, ⟨0x16B62, 0x16B62, 1⟩, ⟨0x16B78, 0x16B7C, 1⟩,
   ⟨0x16B90, 0x16D3F, 1⟩, ⟨0x16D7A, 0x16E3F, 1⟩, ⟨0x16E9B, 0x16E9F, 1⟩, ⟨0x16EB9, 0x16EBA, 1⟩,
   ⟨0x16ED4, 0x16EFF, 1⟩, ⟨0x16F4B, 0x16F4E, 1⟩, ⟨0x16F88, 0x16F8E, 1⟩, ⟨0x16FA0, 0x16FDF, 1⟩,
   ⟨0x16FE5, 0x16FEF, 1⟩, ⟨0x16FF7, 0x16FFF, 1⟩, ⟨0x18CD6, 0x18CFE, 1⟩, ⟨0x18D1F, 0x18D7F, 1⟩,
   ⟨0x18DF3, 0x1AFEF, 1⟩, ⟨0x1AFF4, 0x1AFF4, 1⟩, ⟨0x1AFFC, 0x1AFFC, 1⟩, ⟨0x1AFFF, 0x1AFFF, 1⟩,
   ⟨0x1B123, 0x1B131, 1⟩, ⟨0x1B133, 0x1B14F, 1⟩, ⟨0x1B153, 0x1B154, 1⟩, ⟨0x1B156, 0x1B163, 1⟩,
   ⟨0x1B168, 0x1B16F, 1⟩, ⟨0x1B2FC, 0x1BBFF, 1⟩, ⟨0x1BC6B, 0x1BC6F, 1⟩, ⟨0x1BC7D, 0x1BC7F, 1⟩,
   ⟨0x1BC89, 0x1BC8F, 1⟩, ⟨0x1BC9A, 0x1BC9B, 1⟩, ⟨0x1BCA0, 0x1CBFF, 1⟩, ⟨0x1CCFD, 0x1CCFF, 1⟩,
   ⟨0x1CEB4, 0x1CEB9, 1⟩, ⟨0x1CED1, 0x1CEDF, 1⟩, ⟨0x1CEF1, 0x1CEFF, 1⟩, ⟨0x1CF2E, 0x1CF2F, 1⟩,
   ⟨0x1CF47, 0x1CF4F, 1⟩, ⟨0x1CFC4, 0x1CFFF, 1⟩, ⟨0x1D0F6, 0x1D0FF, 1⟩, ⟨0x1D127, 0x1D128, 1⟩,
   ⟨0x1D173, 0x1D17A, 1⟩, ⟨0x1D1EB, 0x1D1FF, 1⟩, ⟨0x1D246, 0x1D2BF, 1⟩, ⟨0x1D2D4, 0x1D2DF, 1⟩,
   ⟨0x1D2F4, 0x1D2FF, 1⟩, ⟨0x1D357, 0x1D35F, 1⟩, ⟨0x1D379, 0x1D3FF, 1⟩, ⟨0x1D455, 0x1D455, 1⟩,
   ⟨0x1D49D, 0x1D49D, 1⟩, ⟨0x1D4A0, 0x1D4A1, 1⟩, ⟨0x1D4A3, 0x1D4A4, 1⟩, ⟨0x1D4A7, 0x1D4A8, 1⟩,
   ⟨0x1D4AD, 0x1D4AD, 1⟩, ⟨0x1D4BA, 0x1D4BA, 1⟩, ⟨0x1D4BC, 0x1D4BC, 1⟩, ⟨0x1D4C4, 0x1D4C4, 1⟩,
   ⟨0x1D506, 0x1D506, 1⟩, ⟨0x1D50B, 0x1D50C, 1⟩, ⟨0x1D515, 0x1D515, 1⟩, ⟨0x1D51D, 0x1D51D, 1⟩,
   ⟨0x1D53A, 0x1D53A, 1⟩, ⟨0x1D53F, 0x1D53F, 1⟩, ⟨0x1D545, 0x1D545, 1⟩, ⟨0x1D547, 0x1D549, 1⟩,
   ⟨0x1D551, 0x1D551, 1⟩, ⟨0x1D6A6, 0x1D6A7, 1⟩, ⟨0x1D7CC, 0x1D7CD, 1⟩, ⟨0x1DA8C, 0x1DA9A, 1⟩,
   ⟨0x1DAA0, 0x1DAA0, 1⟩, ⟨0x1DAB0, 0x1DEFF, 1⟩, ⟨0x1DF1F, 0x1DF24, 1⟩, ⟨0x1DF2B, 0x1DFFF, 1⟩,
   ⟨0x1E007, 0x1E007, 1⟩, ⟨0x1E019, 0x1E01A, 1⟩, ⟨0x1E022, 0x1E022, 1⟩, ⟨0x1E025, 0x1E025, 1⟩,
   ⟨0x1E02B, 0x1E02F, 1⟩, ⟨0x1E06E, 0x1E08E, 1⟩, ⟨0x1E090, 0x1E0FF, 1⟩, ⟨0x1E12D, 0x1E12F, 1⟩,
   ⟨0x1E13E, 0x1E13F, 1⟩, ⟨0x1E14A, 0x1E14D, 1⟩, ⟨0x1E150, 0x1E28F, 1⟩, ⟨0x1E2AF, 0x1E2BF, 1⟩,
   ⟨0x1E2FA, 0x1E2FE, 1⟩, ⟨0x1E300, 0x1E4CF, 1⟩, ⟨0x1E4FA, 0x1E5CF, 1⟩, ⟨0x1E5FB, 0x1E5FE, 1⟩,
   ⟨0x1E600, 0x1E6BF, 1⟩, ⟨0x1E6DF, 0x1E6DF, 1⟩, ⟨0x1E6F6, 0x1E6FD, 1⟩, ⟨0x1E700, 0x1E7DF, 1⟩,
   ⟨0x1E7E7, 0x1E7E7, 1⟩, ⟨0x1E7EC, 0x1E7EC, 1⟩, ⟨0x1E7EF, 0x1E7EF, 1⟩, ⟨0x1E7FF, 0x1E7FF, 1⟩,
   ⟨0x1E8C5, 0x1E8C6, 1⟩, ⟨0x1E8D7, 0x1E8FF, 1⟩, ⟨0x1E94C, 0x1E94F, 1⟩, ⟨0x1E95A, 0x1E95D, 1⟩,
   ⟨0x1E960, 0x1EC70, 1⟩, ⟨0x1ECB5, 0x1ED00, 1⟩, ⟨0x1ED3E, 0x1EDFF, 1⟩, ⟨0x1EE04, 0x1EE04, 1⟩,
   ⟨0x1EE20, 0x1EE20, 1⟩, ⟨0x1EE23, 0x1EE23, 1⟩, ⟨0x1EE25, 0x1EE26, 1⟩, ⟨0x1EE28, 0x1EE28, 1⟩,
   ⟨0x1EE33, 0x1EE33, 1⟩, ⟨0x1EE38, 0x1EE38, 1⟩, ⟨0x1EE3A, 0x1EE3A, 1⟩, ⟨0x1EE3C, 0x1EE41, 1⟩,
   ⟨0x1EE43, 0x1EE46, 1⟩, ⟨0x1EE48, 0x1EE4C, 2⟩, ⟨0x1EE50, 0x1EE50, 1⟩, ⟨0x1EE53, 0x1EE53, 1⟩,
   ⟨0x1EE55, 0x1EE56, 1⟩, ⟨0x1EE58, 0x1EE60, 2⟩, ⟨0x1EE63, 0x1EE63, 1⟩, ⟨0x1EE65, 0x1EE66, 1⟩,
   ⟨0x1EE6B, 0x1EE6B, 1⟩, ⟨0x1EE73, 0x1EE73, 1⟩, ⟨0x1EE78, 0x1EE78, 1⟩, ⟨0x1EE7D, 0x1EE7D, 1⟩,
   ⟨0x1EE7F, 0x1EE7F, 1⟩, ⟨0x1EE8A, 0x1EE8A, 1⟩, ⟨0x1EE9C, 0x1EEA0, 1⟩, ⟨0x1EEA4, 0x1EEA4, 1⟩,
   ⟨0x1EEAA, 0x1EEAA, 1⟩, ⟨0x1EEBC, 0x1EEEF, 1⟩, ⟨0x1EEF2, 0x1EFFF, 1⟩, ⟨0x1F02C, 0x1F02F, 1⟩,
   ⟨0x1F094, 0x1F09F, 1⟩, ⟨0x1F0AF, 0x1F0B0, 1⟩, ⟨0x1F0C0, 0x1F0C0, 1⟩, ⟨0x1F0D0, 0x1F0D0, 1⟩,
   ⟨0x1F0F6, 0x1F0FF, 1⟩, ⟨0x1F1AE, 0x1F1E5, 1⟩, ⟨0x1F203, 0x1F20F, 1⟩, ⟨0x1F23C, 0x1F23F, 1⟩,
   ⟨0x1F249, 0x1F24F, 1⟩, ⟨0x1F252, 0x1F25F, 1⟩, ⟨0x1F266, 0x1F2FF, 1⟩, ⟨0x1F6D9, 0x1F6DB, 1⟩,
   ⟨0x1F6ED, 0x1F6EF, 1⟩, ⟨0x1F6FD, 0x1F6FF, 1⟩, ⟨0x1F7DA, 0x1F7DF, 1⟩, ⟨0x1F7EC, 0x1F7EF, 1⟩,
   ⟨0x1F7F1, 0x1F7FF, 1⟩, ⟨0x1F80C, 0x1F80F, 1⟩, ⟨0x1F848, 0x1F84F, 1⟩, ⟨0x1F85A, 0x1F85F, 1⟩,
   ⟨0x1F888, 0x1F88F, 1⟩, ⟨0x1F8AE, 0x1F8AF, 1⟩, ⟨0x1F8BC, 0x1F8BF, 1⟩, ⟨0x1F8C2, 0x1F8CF, 1⟩,
   ⟨0x1F8D9, 0x1F8FF, 1⟩, ⟨0x1FA58, 0x1FA5F, 1⟩, ⟨0x1FA6E, 0x1FA6F, 1⟩, ⟨0x1FA7D, 0x1FA7F, 1⟩,
   ⟨0x1FA8B, 0x1FA8D, 1⟩, ⟨0x1FAC7, 0x1FAC7, 1⟩, ⟨0x1FAC9, 0x1FACC, 1⟩, ⟨0x1FADD, 0x1FADE, 1⟩,
   ⟨0x1FAEB, 0x1FAEE, 1⟩, ⟨0x1FAF9, 0x1FAFF, 1⟩, ⟨0x1FB93, 0x1FB93, 1⟩, ⟨0x1FBFB, 0x1FFFF, 1⟩,
   ⟨0x2A6E0, 0x2A6FF, 1⟩, ⟨0x2B81E, 0x2B81F, 1⟩, ⟨0x2CEAE, 0x2CEAF, 1⟩, ⟨0x2EBE1, 0x2EBEF, 1⟩,
   ⟨0x2EE5E, 0x2F7FF, 1⟩, ⟨0x2FA1E, 0x2FFFF, 1⟩, ⟨0x3134B, 0x3134F, 1⟩, ⟨0x3347A, 0xE00FF, 1⟩,
   ⟨0xE01F0, 0x10FFFF, 1⟩]

end Bindery.Text
