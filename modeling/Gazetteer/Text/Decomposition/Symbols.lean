/-!
# Decompositions: punctuation, letterlike symbols, enclosed numbers and kana

Rows `(code point, full compatibility decomposition)`, grouped by page of 256 code points.
-/

set_option autoImplicit false

namespace Gazetteer.Text.Decomposition

def page20 : List (Nat × List Nat) := [
  (0x2000, [0x20]), (0x2001, [0x20]), (0x2002, [0x20]), (0x2003, [0x20]), (0x2004, [0x20]),
  (0x2005, [0x20]), (0x2006, [0x20]), (0x2007, [0x20]), (0x2008, [0x20]), (0x2009, [0x20]),
  (0x200A, [0x20]), (0x2011, [0x2010]), (0x2017, [0x20, 0x333]), (0x2024, [0x2E]),
  (0x2025, [0x2E, 0x2E]), (0x2026, [0x2E, 0x2E, 0x2E]), (0x202F, [0x20]),
  (0x2033, [0x2032, 0x2032]), (0x2034, [0x2032, 0x2032, 0x2032]), (0x2036, [0x2035, 0x2035]),
  (0x2037, [0x2035, 0x2035, 0x2035]), (0x203C, [0x21, 0x21]), (0x203E, [0x20, 0x305]),
  (0x2047, [0x3F, 0x3F]), (0x2048, [0x3F, 0x21]), (0x2049, [0x21, 0x3F]),
  (0x2057, [0x2032, 0x2032, 0x2032, 0x2032]), (0x205F, [0x20]), (0x2070, [0x30]),
  (0x2071, [0x69]), (0x2074, [0x34]), (0x2075, [0x35]), (0x2076, [0x36]), (0x2077, [0x37]),
  (0x2078, [0x38]), (0x2079, [0x39]), (0x207A, [0x2B]), (0x207B, [0x2212]), (0x207C, [0x3D]),
  (0x207D, [0x28]), (0x207E, [0x29]), (0x207F, [0x6E]), (0x2080, [0x30]), (0x2081, [0x31]),
  (0x2082, [0x32]), (0x2083, [0x33]), (0x2084, [0x34]), (0x2085, [0x35]), (0x2086, [0x36]),
  (0x2087, [0x37]), (0x2088, [0x38]), (0x2089, [0x39]), (0x208A, [0x2B]), (0x208B, [0x2212]),
  (0x208C, [0x3D]), (0x208D, [0x28]), (0x208E, [0x29]), (0x2090, [0x61]), (0x2091, [0x65]),
  (0x2092, [0x6F]), (0x2093, [0x78]), (0x2094, [0x259]), (0x2095, [0x68]), (0x2096, [0x6B]),
  (0x2097, [0x6C]), (0x2098, [0x6D]), (0x2099, [0x6E]), (0x209A, [0x70]), (0x209B, [0x73]),
  (0x209C, [0x74]), (0x20A8, [0x52, 0x73])]

def page21 : List (Nat × List Nat) := [
  (0x2100, [0x61, 0x2F, 0x63]), (0x2101, [0x61, 0x2F, 0x73]), (0x2102, [0x43]),
  (0x2103, [0xB0, 0x43]), (0x2105, [0x63, 0x2F, 0x6F]), (0x2106, [0x63, 0x2F, 0x75]),
  (0x2107, [0x190]), (0x2109, [0xB0, 0x46]), (0x210A, [0x67]), (0x210B, [0x48]), (0x210C, [0x48]),
  (0x210D, [0x48]), (0x210E, [0x68]), (0x210F, [0x127]), (0x2110, [0x49]), (0x2111, [0x49]),
  (0x2112, [0x4C]), (0x2113, [0x6C]), (0x2115, [0x4E]), (0x2116, [0x4E, 0x6F]), (0x2119, [0x50]),
  (0x211A, [0x51]), (0x211B, [0x52]), (0x211C, [0x52]), (0x211D, [0x52]), (0x2120, [0x53, 0x4D]),
  (0x2121, [0x54, 0x45, 0x4C]), (0x2122, [0x54, 0x4D]), (0x2124, [0x5A]), (0x2126, [0x3A9]),
  (0x2128, [0x5A]), (0x212A, [0x4B]), (0x212B, [0x41, 0x30A]), (0x212C, [0x42]), (0x212D, [0x43]),
  (0x212F, [0x65]), (0x2130, [0x45]), (0x2131, [0x46]), (0x2133, [0x4D]), (0x2134, [0x6F]),
  (0x2135, [0x5D0]), (0x2136, [0x5D1]), (0x2137, [0x5D2]), (0x2138, [0x5D3]), (0x2139, [0x69]),
  (0x213B, [0x46, 0x41, 0x58]), (0x213C, [0x3C0]), (0x213D, [0x3B3]), (0x213E, [0x393]),
  (0x213F, [0x3A0]), (0x2140, [0x2211]), (0x2145, [0x44]), (0x2146, [0x64]), (0x2147, [0x65]),
  (0x2148, [0x69]), (0x2149, [0x6A]), (0x2150, [0x31, 0x2044, 0x37]),
  (0x2151, [0x31, 0x2044, 0x39]), (0x2152, [0x31, 0x2044, 0x31, 0x30]),
  (0x2153, [0x31, 0x2044, 0x33]), (0x2154, [0x32, 0x2044, 0x33]), (0x2155, [0x31, 0x2044, 0x35]),
  (0x2156, [0x32, 0x2044, 0x35]), (0x2157, [0x33, 0x2044, 0x35]), (0x2158, [0x34, 0x2044, 0x35]),
  (0x2159, [0x31, 0x2044, 0x36]), (0x215A, [0x35, 0x2044, 0x36]), (0x215B, [0x31, 0x2044, 0x38]),
  (0x215C, [0x33, 0x2044, 0x38]), (0x215D, [0x35, 0x2044, 0x38]), (0x215E, [0x37, 0x2044, 0x38]),
  (0x215F, [0x31, 0x2044]), (0x2160, [0x49]), (0x2161, [0x49, 0x49]),
  (0x2162, [0x49, 0x49, 0x49]), (0x2163, [0x49, 0x56]), (0x2164, [0x56]), (0x2165, [0x56, 0x49]),
  (0x2166, [0x56, 0x49, 0x49]), (0x2167, [0x56, 0x49, 0x49, 0x49]), (0x2168, [0x49, 0x58]),
  (0x2169, [0x58]), (0x216A, [0x58, 0x49]), (0x216B, [0x58, 0x49, 0x49]), (0x216C, [0x4C]),
  (0x216D, [0x43]), (0x216E, [0x44]), (0x216F, [0x4D]), (0x2170, [0x69]), (0x2171, [0x69, 0x69]),
  (0x2172, [0x69, 0x69, 0x69]), (0x2173, [0x69, 0x76]), (0x2174, [0x76]), (0x2175, [0x76, 0x69]),
  (0x2176, [0x76, 0x69, 0x69]), (0x2177, [0x76, 0x69, 0x69, 0x69]), (0x2178, [0x69, 0x78]),
  (0x2179, [0x78]), (0x217A, [0x78, 0x69]), (0x217B, [0x78, 0x69, 0x69]), (0x217C, [0x6C]),
  (0x217D, [0x63]), (0x217E, [0x64]), (0x217F, [0x6D]), (0x2189, [0x30, 0x2044, 0x33]),
  (0x219A, [0x2190, 0x338]), (0x219B, [0x2192, 0x338]), (0x21AE, [0x2194, 0x338]),
  (0x21CD, [0x21D0, 0x338]), (0x21CE, [0x21D4, 0x338]), (0x21CF, [0x21D2, 0x338])]

def page22 : List (Nat × List Nat) := [
  (0x2204, [0x2203, 0x338]), (0x2209, [0x2208, 0x338]), (0x220C, [0x220B, 0x338]),
  (0x2224, [0x2223, 0x338]), (0x2226, [0x2225, 0x338]), (0x222C, [0x222B, 0x222B]),
  (0x222D, [0x222B, 0x222B, 0x222B]), (0x222F, [0x222E, 0x222E]),
  (0x2230, [0x222E, 0x222E, 0x222E]), (0x2241, [0x223C, 0x338]), (0x2244, [0x2243, 0x338]),
  (0x2247, [0x2245, 0x338]), (0x2249, [0x2248, 0x338]), (0x2260, [0x3D, 0x338]),
  (0x2262, [0x2261, 0x338]), (0x226D, [0x224D, 0x338]), (0x226E, [0x3C, 0x338]),
  (0x226F, [0x3E, 0x338]), (0x2270, [0x2264, 0x338]), (0x2271, [0x2265, 0x338]),
  (0x2274, [0x2272, 0x338]), (0x2275, [0x2273, 0x338]), (0x2278, [0x2276, 0x338]),
  (0x2279, [0x2277, 0x338]), (0x2280, [0x227A, 0x338]), (0x2281, [0x227B, 0x338]),
  (0x2284, [0x2282, 0x338]), (0x2285, [0x2283, 0x338]), (0x2288, [0x2286, 0x338]),
  (0x2289, [0x2287, 0x338]), (0x22AC, [0x22A2, 0x338]), (0x22AD, [0x22A8, 0x338]),
  (0x22AE, [0x22A9, 0x338]), (0x22AF, [0x22AB, 0x338]), (0x22E0, [0x227C, 0x338]),
  (0x22E1, [0x227D, 0x338]), (0x22E2, [0x2291, 0x338]), (0x22E3, [0x2292, 0x338]),
  (0x22EA, [0x22B2, 0x338]), (0x22EB, [0x22B3, 0x338]), (0x22EC, [0x22B4, 0x338]),
  (0x22ED, [0x22B5, 0x338])]

def page23 : List (Nat × List Nat) := [
  (0x2329, [0x3008]), (0x232A, [0x3009])]

def page24 : List (Nat × List Nat) := [
  (0x2460, [0x31]), (0x2461, [0x32]), (0x2462, [0x33]), (0x2463, [0x34]), (0x2464, [0x35]),
  (0x2465, [0x36]), (0x2466, [0x37]), (0x2467, [0x38]), (0x2468, [0x39]), (0x2469, [0x31, 0x30]),
  (0x246A, [0x31, 0x31]), (0x246B, [0x31, 0x32]), (0x246C, [0x31, 0x33]), (0x246D, [0x31, 0x34]),
  (0x246E, [0x31, 0x35]), (0x246F, [0x31, 0x36]), (0x2470, [0x31, 0x37]), (0x2471, [0x31, 0x38]),
  (0x2472, [0x31, 0x39]), (0x2473, [0x32, 0x30]), (0x2474, [0x28, 0x31, 0x29]),
  (0x2475, [0x28, 0x32, 0x29]), (0x2476, [0x28, 0x33, 0x29]), (0x2477, [0x28, 0x34, 0x29]),
  (0x2478, [0x28, 0x35, 0x29]), (0x2479, [0x28, 0x36, 0x29]), (0x247A, [0x28, 0x37, 0x29]),
  (0x247B, [0x28, 0x38, 0x29]), (0x247C, [0x28, 0x39, 0x29]), (0x247D, [0x28, 0x31, 0x30, 0x29]),
  (0x247E, [0x28, 0x31, 0x31, 0x29]), (0x247F, [0x28, 0x31, 0x32, 0x29]),
  (0x2480, [0x28, 0x31, 0x33, 0x29]), (0x2481, [0x28, 0x31, 0x34, 0x29]),
  (0x2482, [0x28, 0x31, 0x35, 0x29]), (0x2483, [0x28, 0x31, 0x36, 0x29]),
  (0x2484, [0x28, 0x31, 0x37, 0x29]), (0x2485, [0x28, 0x31, 0x38, 0x29]),
  (0x2486, [0x28, 0x31, 0x39, 0x29]), (0x2487, [0x28, 0x32, 0x30, 0x29]), (0x2488, [0x31, 0x2E]),
  (0x2489, [0x32, 0x2E]), (0x248A, [0x33, 0x2E]), (0x248B, [0x34, 0x2E]), (0x248C, [0x35, 0x2E]),
  (0x248D, [0x36, 0x2E]), (0x248E, [0x37, 0x2E]), (0x248F, [0x38, 0x2E]), (0x2490, [0x39, 0x2E]),
  (0x2491, [0x31, 0x30, 0x2E]), (0x2492, [0x31, 0x31, 0x2E]), (0x2493, [0x31, 0x32, 0x2E]),
  (0x2494, [0x31, 0x33, 0x2E]), (0x2495, [0x31, 0x34, 0x2E]), (0x2496, [0x31, 0x35, 0x2E]),
  (0x2497, [0x31, 0x36, 0x2E]), (0x2498, [0x31, 0x37, 0x2E]), (0x2499, [0x31, 0x38, 0x2E]),
  (0x249A, [0x31, 0x39, 0x2E]), (0x249B, [0x32, 0x30, 0x2E]), (0x249C, [0x28, 0x61, 0x29]),
  (0x249D, [0x28, 0x62, 0x29]), (0x249E, [0x28, 0x63, 0x29]), (0x249F, [0x28, 0x64, 0x29]),
  (0x24A0, [0x28, 0x65, 0x29]), (0x24A1, [0x28, 0x66, 0x29]), (0x24A2, [0x28, 0x67, 0x29]),
  (0x24A3, [0x28, 0x68, 0x29]), (0x24A4, [0x28, 0x69, 0x29]), (0x24A5, [0x28, 0x6A, 0x29]),
  (0x24A6, [0x28, 0x6B, 0x29]), (0x24A7, [0x28, 0x6C, 0x29]), (0x24A8, [0x28, 0x6D, 0x29]),
  (0x24A9, [0x28, 0x6E, 0x29]), (0x24AA, [0x28, 0x6F, 0x29]), (0x24AB, [0x28, 0x70, 0x29]),
  (0x24AC, [0x28, 0x71, 0x29]), (0x24AD, [0x28, 0x72, 0x29]), (0x24AE, [0x28, 0x73, 0x29]),
  (0x24AF, [0x28, 0x74, 0x29]), (0x24B0, [0x28, 0x75, 0x29]), (0x24B1, [0x28, 0x76, 0x29]),
  (0x24B2, [0x28, 0x77, 0x29]), (0x24B3, [0x28, 0x78, 0x29]), (0x24B4, [0x28, 0x79, 0x29]),
  (0x24B5, [0x28, 0x7A, 0x29]), (0x24B6, [0x41]), (0x24B7, [0x42]), (0x24B8, [0x43]),
  (0x24B9, [0x44]), (0x24BA, [0x45]), (0x24BB, [0x46]), (0x24BC, [0x47]), (0x24BD, [0x48]),
  (0x24BE, [0x49]), (0x24BF, [0x4A]), (0x24C0, [0x4B]), (0x24C1, [0x4C]), (0x24C2, [0x4D]),
  (0x24C3, [0x4E]), (0x24C4, [0x4F]), (0x24C5, [0x50]), (0x24C6, [0x51]), (0x24C7, [0x52]),
  (0x24C8, [0x53]), (0x24C9, [0x54]), (0x24CA, [0x55]), (0x24CB, [0x56]), (0x24CC, [0x57]),
  (0x24CD, [0x58]), (0x24CE, [0x59]), (0x24CF, [0x5A]), (0x24D0, [0x61]), (0x24D1, [0x62]),
  (0x24D2, [0x63]), (0x24D3, [0x64]), (0x24D4, [0x65]), (0x24D5, [0x66]), (0x24D6, [0x67]),
  (0x24D7, [0x68]), (0x24D8, [0x69]), (0x24D9, [0x6A]), (0x24DA, [0x6B]), (0x24DB, [0x6C]),
  (0x24DC, [0x6D]), (0x24DD, [0x6E]), (0x24DE, [0x6F]), (0x24DF, [0x70]), (0x24E0, [0x71]),
  (0x24E1, [0x72]), (0x24E2, [0x73]), (0x24E3, [0x74]), (0x24E4, [0x75]), (0x24E5, [0x76]),
  (0x24E6, [0x77]), (0x24E7, [0x78]), (0x24E8, [0x79]), (0x24E9, [0x7A]), (0x24EA, [0x30])]

def page2A : List (Nat × List Nat) := [
  (0x2A0C, [0x222B, 0x222B, 0x222B, 0x222B]), (0x2A74, [0x3A, 0x3A, 0x3D]),
  (0x2A75, [0x3D, 0x3D]), (0x2A76, [0x3D, 0x3D, 0x3D]), (0x2ADC, [0x2ADD, 0x338])]

def page2C : List (Nat × List Nat) := [
  (0x2C7C, [0x6A]), (0x2C7D, [0x56])]

def page2D : List (Nat × List Nat) := [
  (0x2D6F, [0x2D61])]

def page2E : List (Nat × List Nat) := [
  (0x2E9F, [0x6BCD]), (0x2EF3, [0x9F9F])]

def page2F : List (Nat × List Nat) := [
  (0x2F00, [0x4E00]), (0x2F01, [0x4E28]), (0x2F02, [0x4E36]), (0x2F03, [0x4E3F]),
  (0x2F04, [0x4E59]), (0x2F05, [0x4E85]), (0x2F06, [0x4E8C]), (0x2F07, [0x4EA0]),
  (0x2F08, [0x4EBA]), (0x2F09, [0x513F]), (0x2F0A, [0x5165]), (0x2F0B, [0x516B]),
  (0x2F0C, [0x5182]), (0x2F0D, [0x5196]), (0x2F0E, [0x51AB]), (0x2F0F, [0x51E0]),
  (0x2F10, [0x51F5]), (0x2F11, [0x5200]), (0x2F12, [0x529B]), (0x2F13, [0x52F9]),
  (0x2F14, [0x5315]), (0x2F15, [0x531A]), (0x2F16, [0x5338]), (0x2F17, [0x5341]),
  (0x2F18, [0x535C]), (0x2F19, [0x5369]), (0x2F1A, [0x5382]), (0x2F1B, [0x53B6]),
  (0x2F1C, [0x53C8]), (0x2F1D, [0x53E3]), (0x2F1E, [0x56D7]), (0x2F1F, [0x571F]),
  (0x2F20, [0x58EB]), (0x2F21, [0x5902]), (0x2F22, [0x590A]), (0x2F23, [0x5915]),
  (0x2F24, [0x5927]), (0x2F25, [0x5973]), (0x2F26, [0x5B50]), (0x2F27, [0x5B80]),
  (0x2F28, [0x5BF8]), (0x2F29, [0x5C0F]), (0x2F2A, [0x5C22]), (0x2F2B, [0x5C38]),
  (0x2F2C, [0x5C6E]), (0x2F2D, [0x5C71]), (0x2F2E, [0x5DDB]), (0x2F2F, [0x5DE5]),
  (0x2F30, [0x5DF1]), (0x2F31, [0x5DFE]), (0x2F32, [0x5E72]), (0x2F33, [0x5E7A]),
  (0x2F34, [0x5E7F]), (0x2F35, [0x5EF4]), (0x2F36, [0x5EFE]), (0x2F37, [0x5F0B]),
  (0x2F38, [0x5F13]), (0x2F39, [0x5F50]), (0x2F3A, [0x5F61]), (0x2F3B, [0x5F73]),
  (0x2F3C, [0x5FC3]), (0x2F3D, [0x6208]), (0x2F3E, [0x6236]), (0x2F3F, [0x624B]),
  (0x2F40, [0x652F]), (0x2F41, [0x6534]), (0x2F42, [0x6587]), (0x2F43, [0x6597]),
  (0x2F44, [0x65A4]), (0x2F45, [0x65B9]), (0x2F46, [0x65E0]), (0x2F47, [0x65E5]),
  (0x2F48, [0x66F0]), (0x2F49, [0x6708]), (0x2F4A, [0x6728]), (0x2F4B, [0x6B20]),
  (0x2F4C, [0x6B62]), (0x2F4D, [0x6B79]), (0x2F4E, [0x6BB3]), (0x2F4F, [0x6BCB]),
  (0x2F50, [0x6BD4]), (0x2F51, [0x6BDB]), (0x2F52, [0x6C0F]), (0x2F53, [0x6C14]),
  (0x2F54, [0x6C34]), (0x2F55, [0x706B]), (0x2F56, [0x722A]), (0x2F57, [0x7236]),
  (0x2F58, [0x723B]), (0x2F59, [0x723F]), (0x2F5A, [0x7247]), (0x2F5B, [0x7259]),
  (0x2F5C, [0x725B]), (0x2F5D, [0x72AC]), (0x2F5E, [0x7384]), (0x2F5F, [0x7389]),
  (0x2F60, [0x74DC]), (0x2F61, [0x74E6]), (0x2F62, [0x7518]), (0x2F63, [0x751F]),
  (0x2F64, [0x7528]), (0x2F65, [0x7530]), (0x2F66, [0x758B]), (0x2F67, [0x7592]),
  (0x2F68, [0x7676]), (0x2F69, [0x767D]), (0x2F6A, [0x76AE]), (0x2F6B, [0x76BF]),
  (0x2F6C, [0x76EE]), (0x2F6D, [0x77DB]), (0x2F6E, [0x77E2]), (0x2F6F, [0x77F3]),
  (0x2F70, [0x793A]), (0x2F71, [0x79B8]), (0x2F72, [0x79BE]), (0x2F73, [0x7A74]),
  (0x2F74, [0x7ACB]), (0x2F75, [0x7AF9]), (0x2F76, [0x7C73]), (0x2F77, [0x7CF8]),
  (0x2F78, [0x7F36]), (0x2F79, [0x7F51]), (0x2F7A, [0x7F8A]), (0x2F7B, [0x7FBD]),
  (0x2F7C, [0x8001]), (0x2F7D, [0x800C]), (0x2F7E, [0x8012]), (0x2F7F, [0x8033]),
  (0x2F80, [0x807F]), (0x2F81, [0x8089]), (0x2F82, [0x81E3]), (0x2F83, [0x81EA]),
  (0x2F84, [0x81F3]), (0x2F85, [0x81FC]), (0x2F86, [0x820C]), (0x2F87, [0x821B]),
  (0x2F88, [0x821F]), (0x2F89, [0x826E]), (0x2F8A, [0x8272]), (0x2F8B, [0x8278]),
  (0x2F8C, [0x864D]), (0x2F8D, [0x866B]), (0x2F8E, [0x8840]), (0x2F8F, [0x884C]),
  (0x2F90, [0x8863]), (0x2F91, [0x897E]), (0x2F92, [0x898B]), (0x2F93, [0x89D2]),
  (0x2F94, [0x8A00]), (0x2F95, [0x8C37]), (0x2F96, [0x8C46]), (0x2F97, [0x8C55]),
  (0x2F98, [0x8C78]), (0x2F99, [0x8C9D]), (0x2F9A, [0x8D64]), (0x2F9B, [0x8D70]),
  (0x2F9C, [0x8DB3]), (0x2F9D, [0x8EAB]), (0x2F9E, [0x8ECA]), (0x2F9F, [0x8F9B]),
  (0x2FA0, [0x8FB0]), (0x2FA1, [0x8FB5]), (0x2FA2, [0x9091]), (0x2FA3, [0x9149]),
  (0x2FA4, [0x91C6]), (0x2FA5, [0x91CC]), (0x2FA6, [0x91D1]), (0x2FA7, [0x9577]),
  (0x2FA8, [0x9580]), (0x2FA9, [0x961C]), (0x2FAA, [0x96B6]), (0x2FAB, [0x96B9]),
  (0x2FAC, [0x96E8]), (0x2FAD, [0x9751]), (0x2FAE, [0x975E]), (0x2FAF, [0x9762]),
  (0x2FB0, [0x9769]), (0x2FB1, [0x97CB]), (0x2FB2, [0x97ED]), (0x2FB3, [0x97F3]),
  (0x2FB4, [0x9801]), (0x2FB5, [0x98A8]), (0x2FB6, [0x98DB]), (0x2FB7, [0x98DF]),
  (0x2FB8, [0x9996]), (0x2FB9, [0x9999]), (0x2FBA, [0x99AC]), (0x2FBB, [0x9AA8]),
  (0x2FBC, [0x9AD8]), (0x2FBD, [0x9ADF]), (0x2FBE, [0x9B25]), (0x2FBF, [0x9B2F]),
  (0x2FC0, [0x9B32]), (0x2FC1, [0x9B3C]), (0x2FC2, [0x9B5A]), (0x2FC3, [0x9CE5]),
  (0x2FC4, [0x9E75]), (0x2FC5, [0x9E7F]), (0x2FC6, [0x9EA5]), (0x2FC7, [0x9EBB]),
  (0x2FC8, [0x9EC3]), (0x2FC9, [0x9ECD]), (0x2FCA, [0x9ED1]), (0x2FCB, [0x9EF9]),
  (0x2FCC, [0x9EFD]), (0x2FCD, [0x9F0E]), (0x2FCE, [0x9F13]), (0x2FCF, [0x9F20]),
  (0x2FD0, [0x9F3B]), (0x2FD1, [0x9F4A]), (0x2FD2, [0x9F52]), (0x2FD3, [0x9F8D]),
  (0x2FD4, [0x9F9C]), (0x2FD5, [0x9FA0])]

def page30 : List (Nat × List Nat) := [
  (0x3000, [0x20]), (0x3036, [0x3012]), (0x3038, [0x5341]), (0x3039, [0x5344]),
  (0x303A, [0x5345]), (0x304C, [0x304B, 0x3099]), (0x304E, [0x304D, 0x3099]),
  (0x3050, [0x304F, 0x3099]), (0x3052, [0x3051, 0x3099]), (0x3054, [0x3053, 0x3099]),
  (0x3056, [0x3055, 0x3099]), (0x3058, [0x3057, 0x3099]), (0x305A, [0x3059, 0x3099]),
  (0x305C, [0x305B, 0x3099]), (0x305E, [0x305D, 0x3099]), (0x3060, [0x305F, 0x3099]),
  (0x3062, [0x3061, 0x3099]), (0x3065, [0x3064, 0x3099]), (0x3067, [0x3066, 0x3099]),
  (0x3069, [0x3068, 0x3099]), (0x3070, [0x306F, 0x3099]), (0x3071, [0x306F, 0x309A]),
  (0x3073, [0x3072, 0x3099]), (0x3074, [0x3072, 0x309A]), (0x3076, [0x3075, 0x3099]),
  (0x3077, [0x3075, 0x309A]), (0x3079, [0x3078, 0x3099]), (0x307A, [0x3078, 0x309A]),
  (0x307C, [0x307B, 0x3099]), (0x307D, [0x307B, 0x309A]), (0x3094, [0x3046, 0x3099]),
  (0x309B, [0x20, 0x3099]), (0x309C, [0x20, 0x309A]), (0x309E, [0x309D, 0x3099]),
  (0x309F, [0x3088, 0x308A]), (0x30AC, [0x30AB, 0x3099]), (0x30AE, [0x30AD, 0x3099]),
  (0x30B0, [0x30AF, 0x3099]), (0x30B2, [0x30B1, 0x3099]), (0x30B4, [0x30B3, 0x3099]),
  (0x30B6, [0x30B5, 0x3099]), (0x30B8, [0x30B7, 0x3099]), (0x30BA, [0x30B9, 0x3099]),
  (0x30BC, [0x30BB, 0x3099]), (0x30BE, [0x30BD, 0x3099]), (0x30C0, [0x30BF, 0x3099]),
  (0x30C2, [0x30C1, 0x3099]), (0x30C5, [0x30C4, 0x3099]), (0x30C7, [0x30C6, 0x3099]),
  (0x30C9, [0x30C8, 0x3099]), (0x30D0, [0x30CF, 0x3099]), (0x30D1, [0x30CF, 0x309A]),
  (0x30D3, [0x30D2, 0x3099]), (0x30D4, [0x30D2, 0x309A]), (0x30D6, [0x30D5, 0x3099]),
  (0x30D7, [0x30D5, 0x309A]), (0x30D9, [0x30D8, 0x3099]), (0x30DA, [0x30D8, 0x309A]),
  (0x30DC, [0x30DB, 0x3099]), (0x30DD, [0x30DB, 0x309A]), (0x30F4, [0x30A6, 0x3099]),
  (0x30F7, [0x30EF, 0x3099]), (0x30F8, [0x30F0, 0x3099]), (0x30F9, [0x30F1, 0x3099]),
  (0x30FA, [0x30F2, 0x3099]), (0x30FE, [0x30FD, 0x3099]), (0x30FF, [0x30B3, 0x30C8])]

def symbols : List (Nat × List (Nat × List Nat)) := [
  (0x20, page20), (0x21, page21), (0x22, page22), (0x23, page23), (0x24, page24), (0x2A, page2A),
  (0x2C, page2C), (0x2D, page2D), (0x2E, page2E), (0x2F, page2F), (0x30, page30)]

end Gazetteer.Text.Decomposition
