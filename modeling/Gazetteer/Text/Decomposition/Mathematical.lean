/-!
# Decompositions: mathematical letters and the supplementary symbols

Rows `(code point, full compatibility decomposition)`, grouped by page of 256 code points.
-/

set_option autoImplicit false

namespace Gazetteer.Text.Decomposition

def page105 : List (Nat × List Nat) := [
  (0x105C9, [0x105D2, 0x307]), (0x105E4, [0x105DA, 0x307])]

def page107 : List (Nat × List Nat) := [
  (0x10781, [0x2D0]), (0x10782, [0x2D1]), (0x10783, [0xE6]), (0x10784, [0x299]),
  (0x10785, [0x253]), (0x10787, [0x2A3]), (0x10788, [0xAB66]), (0x10789, [0x2A5]),
  (0x1078A, [0x2A4]), (0x1078B, [0x256]), (0x1078C, [0x257]), (0x1078D, [0x1D91]),
  (0x1078E, [0x258]), (0x1078F, [0x25E]), (0x10790, [0x2A9]), (0x10791, [0x264]),
  (0x10792, [0x262]), (0x10793, [0x260]), (0x10794, [0x29B]), (0x10795, [0x127]),
  (0x10796, [0x29C]), (0x10797, [0x267]), (0x10798, [0x284]), (0x10799, [0x2AA]),
  (0x1079A, [0x2AB]), (0x1079B, [0x26C]), (0x1079C, [0x1DF04]), (0x1079D, [0xA78E]),
  (0x1079E, [0x26E]), (0x1079F, [0x1DF05]), (0x107A0, [0x28E]), (0x107A1, [0x1DF06]),
  (0x107A2, [0xF8]), (0x107A3, [0x276]), (0x107A4, [0x277]), (0x107A5, [0x71]),
  (0x107A6, [0x27A]), (0x107A7, [0x1DF08]), (0x107A8, [0x27D]), (0x107A9, [0x27E]),
  (0x107AA, [0x280]), (0x107AB, [0x2A8]), (0x107AC, [0x2A6]), (0x107AD, [0xAB67]),
  (0x107AE, [0x2A7]), (0x107AF, [0x288]), (0x107B0, [0x2C71]), (0x107B2, [0x28F]),
  (0x107B3, [0x2A1]), (0x107B4, [0x2A2]), (0x107B5, [0x298]), (0x107B6, [0x1C0]),
  (0x107B7, [0x1C1]), (0x107B8, [0x1C2]), (0x107B9, [0x1DF0A]), (0x107BA, [0x1DF1E])]

def page110 : List (Nat × List Nat) := [
  (0x1109A, [0x11099, 0x110BA]), (0x1109C, [0x1109B, 0x110BA]), (0x110AB, [0x110A5, 0x110BA])]

def page111 : List (Nat × List Nat) := [
  (0x1112E, [0x11131, 0x11127]), (0x1112F, [0x11132, 0x11127])]

def page113 : List (Nat × List Nat) := [
  (0x1134B, [0x11347, 0x1133E]), (0x1134C, [0x11347, 0x11357]), (0x11383, [0x11382, 0x113C9]),
  (0x11385, [0x11384, 0x113BB]), (0x1138E, [0x1138B, 0x113C2]), (0x11391, [0x11390, 0x113C9]),
  (0x113C5, [0x113C2, 0x113C2]), (0x113C7, [0x113C2, 0x113B8]), (0x113C8, [0x113C2, 0x113C9])]

def page114 : List (Nat × List Nat) := [
  (0x114BB, [0x114B9, 0x114BA]), (0x114BC, [0x114B9, 0x114B0]), (0x114BE, [0x114B9, 0x114BD])]

def page115 : List (Nat × List Nat) := [
  (0x115BA, [0x115B8, 0x115AF]), (0x115BB, [0x115B9, 0x115AF])]

def page119 : List (Nat × List Nat) := [
  (0x11938, [0x11935, 0x11930])]

def page161 : List (Nat × List Nat) := [
  (0x16121, [0x1611E, 0x1611E]), (0x16122, [0x1611E, 0x16129]), (0x16123, [0x1611E, 0x1611F]),
  (0x16124, [0x16129, 0x1611F]), (0x16125, [0x1611E, 0x16120]),
  (0x16126, [0x1611E, 0x1611E, 0x1611F]), (0x16127, [0x1611E, 0x16129, 0x1611F]),
  (0x16128, [0x1611E, 0x1611E, 0x16120])]

def page16D : List (Nat × List Nat) := [
  (0x16D68, [0x16D67, 0x16D67]), (0x16D69, [0x16D63, 0x16D67]),
  (0x16D6A, [0x16D63, 0x16D67, 0x16D67])]

def page1CC : List (Nat × List Nat) := [
  (0x1CCD6, [0x41]), (0x1CCD7, [0x42]), (0x1CCD8, [0x43]), (0x1CCD9, [0x44]), (0x1CCDA, [0x45]),
  (0x1CCDB, [0x46]), (0x1CCDC, [0x47]), (0x1CCDD, [0x48]), (0x1CCDE, [0x49]), (0x1CCDF, [0x4A]),
  (0x1CCE0, [0x4B]), (0x1CCE1, [0x4C]), (0x1CCE2, [0x4D]), (0x1CCE3, [0x4E]), (0x1CCE4, [0x4F]),
  (0x1CCE5, [0x50]), (0x1CCE6, [0x51]), (0x1CCE7, [0x52]), (0x1CCE8, [0x53]), (0x1CCE9, [0x54]),
  (0x1CCEA, [0x55]), (0x1CCEB, [0x56]), (0x1CCEC, [0x57]), (0x1CCED, [0x58]), (0x1CCEE, [0x59]),
  (0x1CCEF, [0x5A]), (0x1CCF0, [0x30]), (0x1CCF1, [0x31]), (0x1CCF2, [0x32]), (0x1CCF3, [0x33]),
  (0x1CCF4, [0x34]), (0x1CCF5, [0x35]), (0x1CCF6, [0x36]), (0x1CCF7, [0x37]), (0x1CCF8, [0x38]),
  (0x1CCF9, [0x39])]

def page1D1 : List (Nat × List Nat) := [
  (0x1D15E, [0x1D157, 0x1D165]), (0x1D15F, [0x1D158, 0x1D165]),
  (0x1D160, [0x1D158, 0x1D165, 0x1D16E]), (0x1D161, [0x1D158, 0x1D165, 0x1D16F]),
  (0x1D162, [0x1D158, 0x1D165, 0x1D170]), (0x1D163, [0x1D158, 0x1D165, 0x1D171]),
  (0x1D164, [0x1D158, 0x1D165, 0x1D172]), (0x1D1BB, [0x1D1B9, 0x1D165]),
  (0x1D1BC, [0x1D1BA, 0x1D165]), (0x1D1BD, [0x1D1B9, 0x1D165, 0x1D16E]),
  (0x1D1BE, [0x1D1BA, 0x1D165, 0x1D16E]), (0x1D1BF, [0x1D1B9, 0x1D165, 0x1D16F]),
  (0x1D1C0, [0x1D1BA, 0x1D165, 0x1D16F])]

def page1D4 : List (Nat × List Nat) := [
  (0x1D400, [0x41]), (0x1D401, [0x42]), (0x1D402, [0x43]), (0x1D403, [0x44]), (0x1D404, [0x45]),
  (0x1D405, [0x46]), (0x1D406, [0x47]), (0x1D407, [0x48]), (0x1D408, [0x49]), (0x1D409, [0x4A]),
  (0x1D40A, [0x4B]), (0x1D40B, [0x4C]), (0x1D40C, [0x4D]), (0x1D40D, [0x4E]), (0x1D40E, [0x4F]),
  (0x1D40F, [0x50]), (0x1D410, [0x51]), (0x1D411, [0x52]), (0x1D412, [0x53]), (0x1D413, [0x54]),
  (0x1D414, [0x55]), (0x1D415, [0x56]), (0x1D416, [0x57]), (0x1D417, [0x58]), (0x1D418, [0x59]),
  (0x1D419, [0x5A]), (0x1D41A, [0x61]), (0x1D41B, [0x62]), (0x1D41C, [0x63]), (0x1D41D, [0x64]),
  (0x1D41E, [0x65]), (0x1D41F, [0x66]), (0x1D420, [0x67]), (0x1D421, [0x68]), (0x1D422, [0x69]),
  (0x1D423, [0x6A]), (0x1D424, [0x6B]), (0x1D425, [0x6C]), (0x1D426, [0x6D]), (0x1D427, [0x6E]),
  (0x1D428, [0x6F]), (0x1D429, [0x70]), (0x1D42A, [0x71]), (0x1D42B, [0x72]), (0x1D42C, [0x73]),
  (0x1D42D, [0x74]), (0x1D42E, [0x75]), (0x1D42F, [0x76]), (0x1D430, [0x77]), (0x1D431, [0x78]),
  (0x1D432, [0x79]), (0x1D433, [0x7A]), (0x1D434, [0x41]), (0x1D435, [0x42]), (0x1D436, [0x43]),
  (0x1D437, [0x44]), (0x1D438, [0x45]), (0x1D439, [0x46]), (0x1D43A, [0x47]), (0x1D43B, [0x48]),
  (0x1D43C, [0x49]), (0x1D43D, [0x4A]), (0x1D43E, [0x4B]), (0x1D43F, [0x4C]), (0x1D440, [0x4D]),
  (0x1D441, [0x4E]), (0x1D442, [0x4F]), (0x1D443, [0x50]), (0x1D444, [0x51]), (0x1D445, [0x52]),
  (0x1D446, [0x53]), (0x1D447, [0x54]), (0x1D448, [0x55]), (0x1D449, [0x56]), (0x1D44A, [0x57]),
  (0x1D44B, [0x58]), (0x1D44C, [0x59]), (0x1D44D, [0x5A]), (0x1D44E, [0x61]), (0x1D44F, [0x62]),
  (0x1D450, [0x63]), (0x1D451, [0x64]), (0x1D452, [0x65]), (0x1D453, [0x66]), (0x1D454, [0x67]),
  (0x1D456, [0x69]), (0x1D457, [0x6A]), (0x1D458, [0x6B]), (0x1D459, [0x6C]), (0x1D45A, [0x6D]),
  (0x1D45B, [0x6E]), (0x1D45C, [0x6F]), (0x1D45D, [0x70]), (0x1D45E, [0x71]), (0x1D45F, [0x72]),
  (0x1D460, [0x73]), (0x1D461, [0x74]), (0x1D462, [0x75]), (0x1D463, [0x76]), (0x1D464, [0x77]),
  (0x1D465, [0x78]), (0x1D466, [0x79]), (0x1D467, [0x7A]), (0x1D468, [0x41]), (0x1D469, [0x42]),
  (0x1D46A, [0x43]), (0x1D46B, [0x44]), (0x1D46C, [0x45]), (0x1D46D, [0x46]), (0x1D46E, [0x47]),
  (0x1D46F, [0x48]), (0x1D470, [0x49]), (0x1D471, [0x4A]), (0x1D472, [0x4B]), (0x1D473, [0x4C]),
  (0x1D474, [0x4D]), (0x1D475, [0x4E]), (0x1D476, [0x4F]), (0x1D477, [0x50]), (0x1D478, [0x51]),
  (0x1D479, [0x52]), (0x1D47A, [0x53]), (0x1D47B, [0x54]), (0x1D47C, [0x55]), (0x1D47D, [0x56]),
  (0x1D47E, [0x57]), (0x1D47F, [0x58]), (0x1D480, [0x59]), (0x1D481, [0x5A]), (0x1D482, [0x61]),
  (0x1D483, [0x62]), (0x1D484, [0x63]), (0x1D485, [0x64]), (0x1D486, [0x65]), (0x1D487, [0x66]),
  (0x1D488, [0x67]), (0x1D489, [0x68]), (0x1D48A, [0x69]), (0x1D48B, [0x6A]), (0x1D48C, [0x6B]),
  (0x1D48D, [0x6C]), (0x1D48E, [0x6D]), (0x1D48F, [0x6E]), (0x1D490, [0x6F]), (0x1D491, [0x70]),
  (0x1D492, [0x71]), (0x1D493, [0x72]), (0x1D494, [0x73]), (0x1D495, [0x74]), (0x1D496, [0x75]),
  (0x1D497, [0x76]), (0x1D498, [0x77]), (0x1D499, [0x78]), (0x1D49A, [0x79]), (0x1D49B, [0x7A]),
  (0x1D49C, [0x41]), (0x1D49E, [0x43]), (0x1D49F, [0x44]), (0x1D4A2, [0x47]), (0x1D4A5, [0x4A]),
  (0x1D4A6, [0x4B]), (0x1D4A9, [0x4E]), (0x1D4AA, [0x4F]), (0x1D4AB, [0x50]), (0x1D4AC, [0x51]),
  (0x1D4AE, [0x53]), (0x1D4AF, [0x54]), (0x1D4B0, [0x55]), (0x1D4B1, [0x56]), (0x1D4B2, [0x57]),
  (0x1D4B3, [0x58]), (0x1D4B4, [0x59]), (0x1D4B5, [0x5A]), (0x1D4B6, [0x61]), (0x1D4B7, [0x62]),
  (0x1D4B8, [0x63]), (0x1D4B9, [0x64]), (0x1D4BB, [0x66]), (0x1D4BD, [0x68]), (0x1D4BE, [0x69]),
  (0x1D4BF, [0x6A]), (0x1D4C0, [0x6B]), (0x1D4C1, [0x6C]), (0x1D4C2, [0x6D]), (0x1D4C3, [0x6E]),
  (0x1D4C5, [0x70]), (0x1D4C6, [0x71]), (0x1D4C7, [0x72]), (0x1D4C8, [0x73]), (0x1D4C9, [0x74]),
  (0x1D4CA, [0x75]), (0x1D4CB, [0x76]), (0x1D4CC, [0x77]), (0x1D4CD, [0x78]), (0x1D4CE, [0x79]),
  (0x1D4CF, [0x7A]), (0x1D4D0, [0x41]), (0x1D4D1, [0x42]), (0x1D4D2, [0x43]), (0x1D4D3, [0x44]),
  (0x1D4D4, [0x45]), (0x1D4D5, [0x46]), (0x1D4D6, [0x47]), (0x1D4D7, [0x48]), (0x1D4D8, [0x49]),
  (0x1D4D9, [0x4A]), (0x1D4DA, [0x4B]), (0x1D4DB, [0x4C]), (0x1D4DC, [0x4D]), (0x1D4DD, [0x4E]),
  (0x1D4DE, [0x4F]), (0x1D4DF, [0x50]), (0x1D4E0, [0x51]), (0x1D4E1, [0x52]), (0x1D4E2, [0x53]),
  (0x1D4E3, [0x54]), (0x1D4E4, [0x55]), (0x1D4E5, [0x56]), (0x1D4E6, [0x57]), (0x1D4E7, [0x58]),
  (0x1D4E8, [0x59]), (0x1D4E9, [0x5A]), (0x1D4EA, [0x61]), (0x1D4EB, [0x62]), (0x1D4EC, [0x63]),
  (0x1D4ED, [0x64]), (0x1D4EE, [0x65]), (0x1D4EF, [0x66]), (0x1D4F0, [0x67]), (0x1D4F1, [0x68]),
  (0x1D4F2, [0x69]), (0x1D4F3, [0x6A]), (0x1D4F4, [0x6B]), (0x1D4F5, [0x6C]), (0x1D4F6, [0x6D]),
  (0x1D4F7, [0x6E]), (0x1D4F8, [0x6F]), (0x1D4F9, [0x70]), (0x1D4FA, [0x71]), (0x1D4FB, [0x72]),
  (0x1D4FC, [0x73]), (0x1D4FD, [0x74]), (0x1D4FE, [0x75]), (0x1D4FF, [0x76])]

def page1D5 : List (Nat × List Nat) := [
  (0x1D500, [0x77]), (0x1D501, [0x78]), (0x1D502, [0x79]), (0x1D503, [0x7A]), (0x1D504, [0x41]),
  (0x1D505, [0x42]), (0x1D507, [0x44]), (0x1D508, [0x45]), (0x1D509, [0x46]), (0x1D50A, [0x47]),
  (0x1D50D, [0x4A]), (0x1D50E, [0x4B]), (0x1D50F, [0x4C]), (0x1D510, [0x4D]), (0x1D511, [0x4E]),
  (0x1D512, [0x4F]), (0x1D513, [0x50]), (0x1D514, [0x51]), (0x1D516, [0x53]), (0x1D517, [0x54]),
  (0x1D518, [0x55]), (0x1D519, [0x56]), (0x1D51A, [0x57]), (0x1D51B, [0x58]), (0x1D51C, [0x59]),
  (0x1D51E, [0x61]), (0x1D51F, [0x62]), (0x1D520, [0x63]), (0x1D521, [0x64]), (0x1D522, [0x65]),
  (0x1D523, [0x66]), (0x1D524, [0x67]), (0x1D525, [0x68]), (0x1D526, [0x69]), (0x1D527, [0x6A]),
  (0x1D528, [0x6B]), (0x1D529, [0x6C]), (0x1D52A, [0x6D]), (0x1D52B, [0x6E]), (0x1D52C, [0x6F]),
  (0x1D52D, [0x70]), (0x1D52E, [0x71]), (0x1D52F, [0x72]), (0x1D530, [0x73]), (0x1D531, [0x74]),
  (0x1D532, [0x75]), (0x1D533, [0x76]), (0x1D534, [0x77]), (0x1D535, [0x78]), (0x1D536, [0x79]),
  (0x1D537, [0x7A]), (0x1D538, [0x41]), (0x1D539, [0x42]), (0x1D53B, [0x44]), (0x1D53C, [0x45]),
  (0x1D53D, [0x46]), (0x1D53E, [0x47]), (0x1D540, [0x49]), (0x1D541, [0x4A]), (0x1D542, [0x4B]),
  (0x1D543, [0x4C]), (0x1D544, [0x4D]), (0x1D546, [0x4F]), (0x1D54A, [0x53]), (0x1D54B, [0x54]),
  (0x1D54C, [0x55]), (0x1D54D, [0x56]), (0x1D54E, [0x57]), (0x1D54F, [0x58]), (0x1D550, [0x59]),
  (0x1D552, [0x61]), (0x1D553, [0x62]), (0x1D554, [0x63]), (0x1D555, [0x64]), (0x1D556, [0x65]),
  (0x1D557, [0x66]), (0x1D558, [0x67]), (0x1D559, [0x68]), (0x1D55A, [0x69]), (0x1D55B, [0x6A]),
  (0x1D55C, [0x6B]), (0x1D55D, [0x6C]), (0x1D55E, [0x6D]), (0x1D55F, [0x6E]), (0x1D560, [0x6F]),
  (0x1D561, [0x70]), (0x1D562, [0x71]), (0x1D563, [0x72]), (0x1D564, [0x73]), (0x1D565, [0x74]),
  (0x1D566, [0x75]), (0x1D567, [0x76]), (0x1D568, [0x77]), (0x1D569, [0x78]), (0x1D56A, [0x79]),
  (0x1D56B, [0x7A]), (0x1D56C, [0x41]), (0x1D56D, [0x42]), (0x1D56E, [0x43]), (0x1D56F, [0x44]),
  (0x1D570, [0x45]), (0x1D571, [0x46]), (0x1D572, [0x47]), (0x1D573, [0x48]), (0x1D574, [0x49]),
  (0x1D575, [0x4A]), (0x1D576, [0x4B]), (0x1D577, [0x4C]), (0x1D578, [0x4D]), (0x1D579, [0x4E]),
  (0x1D57A, [0x4F]), (0x1D57B, [0x50]), (0x1D57C, [0x51]), (0x1D57D, [0x52]), (0x1D57E, [0x53]),
  (0x1D57F, [0x54]), (0x1D580, [0x55]), (0x1D581, [0x56]), (0x1D582, [0x57]), (0x1D583, [0x58]),
  (0x1D584, [0x59]), (0x1D585, [0x5A]), (0x1D586, [0x61]), (0x1D587, [0x62]), (0x1D588, [0x63]),
  (0x1D589, [0x64]), (0x1D58A, [0x65]), (0x1D58B, [0x66]), (0x1D58C, [0x67]), (0x1D58D, [0x68]),
  (0x1D58E, [0x69]), (0x1D58F, [0x6A]), (0x1D590, [0x6B]), (0x1D591, [0x6C]), (0x1D592, [0x6D]),
  (0x1D593, [0x6E]), (0x1D594, [0x6F]), (0x1D595, [0x70]), (0x1D596, [0x71]), (0x1D597, [0x72]),
  (0x1D598, [0x73]), (0x1D599, [0x74]), (0x1D59A, [0x75]), (0x1D59B, [0x76]), (0x1D59C, [0x77]),
  (0x1D59D, [0x78]), (0x1D59E, [0x79]), (0x1D59F, [0x7A]), (0x1D5A0, [0x41]), (0x1D5A1, [0x42]),
  (0x1D5A2, [0x43]), (0x1D5A3, [0x44]), (0x1D5A4, [0x45]), (0x1D5A5, [0x46]), (0x1D5A6, [0x47]),
  (0x1D5A7, [0x48]), (0x1D5A8, [0x49]), (0x1D5A9, [0x4A]), (0x1D5AA, [0x4B]), (0x1D5AB, [0x4C]),
  (0x1D5AC, [0x4D]), (0x1D5AD, [0x4E]), (0x1D5AE, [0x4F]), (0x1D5AF, [0x50]), (0x1D5B0, [0x51]),
  (0x1D5B1, [0x52]), (0x1D5B2, [0x53]), (0x1D5B3, [0x54]), (0x1D5B4, [0x55]), (0x1D5B5, [0x56]),
  (0x1D5B6, [0x57]), (0x1D5B7, [0x58]), (0x1D5B8, [0x59]), (0x1D5B9, [0x5A]), (0x1D5BA, [0x61]),
  (0x1D5BB, [0x62]), (0x1D5BC, [0x63]), (0x1D5BD, [0x64]), (0x1D5BE, [0x65]), (0x1D5BF, [0x66]),
  (0x1D5C0, [0x67]), (0x1D5C1, [0x68]), (0x1D5C2, [0x69]), (0x1D5C3, [0x6A]), (0x1D5C4, [0x6B]),
  (0x1D5C5, [0x6C]), (0x1D5C6, [0x6D]), (0x1D5C7, [0x6E]), (0x1D5C8, [0x6F]), (0x1D5C9, [0x70]),
  (0x1D5CA, [0x71]), (0x1D5CB, [0x72]), (0x1D5CC, [0x73]), (0x1D5CD, [0x74]), (0x1D5CE, [0x75]),
  (0x1D5CF, [0x76]), (0x1D5D0, [0x77]), (0x1D5D1, [0x78]), (0x1D5D2, [0x79]), (0x1D5D3, [0x7A]),
  (0x1D5D4, [0x41]), (0x1D5D5, [0x42]), (0x1D5D6, [0x43]), (0x1D5D7, [0x44]), (0x1D5D8, [0x45]),
  (0x1D5D9, [0x46]), (0x1D5DA, [0x47]), (0x1D5DB, [0x48]), (0x1D5DC, [0x49]), (0x1D5DD, [0x4A]),
  (0x1D5DE, [0x4B]), (0x1D5DF, [0x4C]), (0x1D5E0, [0x4D]), (0x1D5E1, [0x4E]), (0x1D5E2, [0x4F]),
  (0x1D5E3, [0x50]), (0x1D5E4, [0x51]), (0x1D5E5, [0x52]), (0x1D5E6, [0x53]), (0x1D5E7, [0x54]),
  (0x1D5E8, [0x55]), (0x1D5E9, [0x56]), (0x1D5EA, [0x57]), (0x1D5EB, [0x58]), (0x1D5EC, [0x59]),
  (0x1D5ED, [0x5A]), (0x1D5EE, [0x61]), (0x1D5EF, [0x62]), (0x1D5F0, [0x63]), (0x1D5F1, [0x64]),
  (0x1D5F2, [0x65]), (0x1D5F3, [0x66]), (0x1D5F4, [0x67]), (0x1D5F5, [0x68]), (0x1D5F6, [0x69]),
  (0x1D5F7, [0x6A]), (0x1D5F8, [0x6B]), (0x1D5F9, [0x6C]), (0x1D5FA, [0x6D]), (0x1D5FB, [0x6E]),
  (0x1D5FC, [0x6F]), (0x1D5FD, [0x70]), (0x1D5FE, [0x71]), (0x1D5FF, [0x72])]

def page1D6 : List (Nat × List Nat) := [
  (0x1D600, [0x73]), (0x1D601, [0x74]), (0x1D602, [0x75]), (0x1D603, [0x76]), (0x1D604, [0x77]),
  (0x1D605, [0x78]), (0x1D606, [0x79]), (0x1D607, [0x7A]), (0x1D608, [0x41]), (0x1D609, [0x42]),
  (0x1D60A, [0x43]), (0x1D60B, [0x44]), (0x1D60C, [0x45]), (0x1D60D, [0x46]), (0x1D60E, [0x47]),
  (0x1D60F, [0x48]), (0x1D610, [0x49]), (0x1D611, [0x4A]), (0x1D612, [0x4B]), (0x1D613, [0x4C]),
  (0x1D614, [0x4D]), (0x1D615, [0x4E]), (0x1D616, [0x4F]), (0x1D617, [0x50]), (0x1D618, [0x51]),
  (0x1D619, [0x52]), (0x1D61A, [0x53]), (0x1D61B, [0x54]), (0x1D61C, [0x55]), (0x1D61D, [0x56]),
  (0x1D61E, [0x57]), (0x1D61F, [0x58]), (0x1D620, [0x59]), (0x1D621, [0x5A]), (0x1D622, [0x61]),
  (0x1D623, [0x62]), (0x1D624, [0x63]), (0x1D625, [0x64]), (0x1D626, [0x65]), (0x1D627, [0x66]),
  (0x1D628, [0x67]), (0x1D629, [0x68]), (0x1D62A, [0x69]), (0x1D62B, [0x6A]), (0x1D62C, [0x6B]),
  (0x1D62D, [0x6C]), (0x1D62E, [0x6D]), (0x1D62F, [0x6E]), (0x1D630, [0x6F]), (0x1D631, [0x70]),
  (0x1D632, [0x71]), (0x1D633, [0x72]), (0x1D634, [0x73]), (0x1D635, [0x74]), (0x1D636, [0x75]),
  (0x1D637, [0x76]), (0x1D638, [0x77]), (0x1D639, [0x78]), (0x1D63A, [0x79]), (0x1D63B, [0x7A]),
  (0x1D63C, [0x41]), (0x1D63D, [0x42]), (0x1D63E, [0x43]), (0x1D63F, [0x44]), (0x1D640, [0x45]),
  (0x1D641, [0x46]), (0x1D642, [0x47]), (0x1D643, [0x48]), (0x1D644, [0x49]), (0x1D645, [0x4A]),
  (0x1D646, [0x4B]), (0x1D647, [0x4C]), (0x1D648, [0x4D]), (0x1D649, [0x4E]), (0x1D64A, [0x4F]),
  (0x1D64B, [0x50]), (0x1D64C, [0x51]), (0x1D64D, [0x52]), (0x1D64E, [0x53]), (0x1D64F, [0x54]),
  (0x1D650, [0x55]), (0x1D651, [0x56]), (0x1D652, [0x57]), (0x1D653, [0x58]), (0x1D654, [0x59]),
  (0x1D655, [0x5A]), (0x1D656, [0x61]), (0x1D657, [0x62]), (0x1D658, [0x63]), (0x1D659, [0x64]),
  (0x1D65A, [0x65]), (0x1D65B, [0x66]), (0x1D65C, [0x67]), (0x1D65D, [0x68]), (0x1D65E, [0x69]),
  (0x1D65F, [0x6A]), (0x1D660, [0x6B]), (0x1D661, [0x6C]), (0x1D662, [0x6D]), (0x1D663, [0x6E]),
  (0x1D664, [0x6F]), (0x1D665, [0x70]), (0x1D666, [0x71]), (0x1D667, [0x72]), (0x1D668, [0x73]),
  (0x1D669, [0x74]), (0x1D66A, [0x75]), (0x1D66B, [0x76]), (0x1D66C, [0x77]), (0x1D66D, [0x78]),
  (0x1D66E, [0x79]), (0x1D66F, [0x7A]), (0x1D670, [0x41]), (0x1D671, [0x42]), (0x1D672, [0x43]),
  (0x1D673, [0x44]), (0x1D674, [0x45]), (0x1D675, [0x46]), (0x1D676, [0x47]), (0x1D677, [0x48]),
  (0x1D678, [0x49]), (0x1D679, [0x4A]), (0x1D67A, [0x4B]), (0x1D67B, [0x4C]), (0x1D67C, [0x4D]),
  (0x1D67D, [0x4E]), (0x1D67E, [0x4F]), (0x1D67F, [0x50]), (0x1D680, [0x51]), (0x1D681, [0x52]),
  (0x1D682, [0x53]), (0x1D683, [0x54]), (0x1D684, [0x55]), (0x1D685, [0x56]), (0x1D686, [0x57]),
  (0x1D687, [0x58]), (0x1D688, [0x59]), (0x1D689, [0x5A]), (0x1D68A, [0x61]), (0x1D68B, [0x62]),
  (0x1D68C, [0x63]), (0x1D68D, [0x64]), (0x1D68E, [0x65]), (0x1D68F, [0x66]), (0x1D690, [0x67]),
  (0x1D691, [0x68]), (0x1D692, [0x69]), (0x1D693, [0x6A]), (0x1D694, [0x6B]), (0x1D695, [0x6C]),
  (0x1D696, [0x6D]), (0x1D697, [0x6E]), (0x1D698, [0x6F]), (0x1D699, [0x70]), (0x1D69A, [0x71]),
  (0x1D69B, [0x72]), (0x1D69C, [0x73]), (0x1D69D, [0x74]), (0x1D69E, [0x75]), (0x1D69F, [0x76]),
  (0x1D6A0, [0x77]), (0x1D6A1, [0x78]), (0x1D6A2, [0x79]), (0x1D6A3, [0x7A]), (0x1D6A4, [0x131]),
  (0x1D6A5, [0x237]), (0x1D6A8, [0x391]), (0x1D6A9, [0x392]), (0x1D6AA, [0x393]),
  (0x1D6AB, [0x394]), (0x1D6AC, [0x395]), (0x1D6AD, [0x396]), (0x1D6AE, [0x397]),
  (0x1D6AF, [0x398]), (0x1D6B0, [0x399]), (0x1D6B1, [0x39A]), (0x1D6B2, [0x39B]),
  (0x1D6B3, [0x39C]), (0x1D6B4, [0x39D]), (0x1D6B5, [0x39E]), (0x1D6B6, [0x39F]),
  (0x1D6B7, [0x3A0]), (0x1D6B8, [0x3A1]), (0x1D6B9, [0x398]), (0x1D6BA, [0x3A3]),
  (0x1D6BB, [0x3A4]), (0x1D6BC, [0x3A5]), (0x1D6BD, [0x3A6]), (0x1D6BE, [0x3A7]),
  (0x1D6BF, [0x3A8]), (0x1D6C0, [0x3A9]), (0x1D6C1, [0x2207]), (0x1D6C2, [0x3B1]),
  (0x1D6C3, [0x3B2]), (0x1D6C4, [0x3B3]), (0x1D6C5, [0x3B4]), (0x1D6C6, [0x3B5]),
  (0x1D6C7, [0x3B6]), (0x1D6C8, [0x3B7]), (0x1D6C9, [0x3B8]), (0x1D6CA, [0x3B9]),
  (0x1D6CB, [0x3BA]), (0x1D6CC, [0x3BB]), (0x1D6CD, [0x3BC]), (0x1D6CE, [0x3BD]),
  (0x1D6CF, [0x3BE]), (0x1D6D0, [0x3BF]), (0x1D6D1, [0x3C0]), (0x1D6D2, [0x3C1]),
  (0x1D6D3, [0x3C2]), (0x1D6D4, [0x3C3]), (0x1D6D5, [0x3C4]), (0x1D6D6, [0x3C5]),
  (0x1D6D7, [0x3C6]), (0x1D6D8, [0x3C7]), (0x1D6D9, [0x3C8]), (0x1D6DA, [0x3C9]),
  (0x1D6DB, [0x2202]), (0x1D6DC, [0x3B5]), (0x1D6DD, [0x3B8]), (0x1D6DE, [0x3BA]),
  (0x1D6DF, [0x3C6]), (0x1D6E0, [0x3C1]), (0x1D6E1, [0x3C0]), (0x1D6E2, [0x391]),
  (0x1D6E3, [0x392]), (0x1D6E4, [0x393]), (0x1D6E5, [0x394]), (0x1D6E6, [0x395]),
  (0x1D6E7, [0x396]), (0x1D6E8, [0x397]), (0x1D6E9, [0x398]), (0x1D6EA, [0x399]),
  (0x1D6EB, [0x39A]), (0x1D6EC, [0x39B]), (0x1D6ED, [0x39C]), (0x1D6EE, [0x39D]),
  (0x1D6EF, [0x39E]), (0x1D6F0, [0x39F]), (0x1D6F1, [0x3A0]), (0x1D6F2, [0x3A1]),
  (0x1D6F3, [0x398]), (0x1D6F4, [0x3A3]), (0x1D6F5, [0x3A4]), (0x1D6F6, [0x3A5]),
  (0x1D6F7, [0x3A6]), (0x1D6F8, [0x3A7]), (0x1D6F9, [0x3A8]), (0x1D6FA, [0x3A9]),
  (0x1D6FB, [0x2207]), (0x1D6FC, [0x3B1]), (0x1D6FD, [0x3B2]), (0x1D6FE, [0x3B3]),
  (0x1D6FF, [0x3B4])]

def page1D7 : List (Nat × List Nat) := [
  (0x1D700, [0x3B5]), (0x1D701, [0x3B6]), (0x1D702, [0x3B7]), (0x1D703, [0x3B8]),
  (0x1D704, [0x3B9]), (0x1D705, [0x3BA]), (0x1D706, [0x3BB]), (0x1D707, [0x3BC]),
  (0x1D708, [0x3BD]), (0x1D709, [0x3BE]), (0x1D70A, [0x3BF]), (0x1D70B, [0x3C0]),
  (0x1D70C, [0x3C1]), (0x1D70D, [0x3C2]), (0x1D70E, [0x3C3]), (0x1D70F, [0x3C4]),
  (0x1D710, [0x3C5]), (0x1D711, [0x3C6]), (0x1D712, [0x3C7]), (0x1D713, [0x3C8]),
  (0x1D714, [0x3C9]), (0x1D715, [0x2202]), (0x1D716, [0x3B5]), (0x1D717, [0x3B8]),
  (0x1D718, [0x3BA]), (0x1D719, [0x3C6]), (0x1D71A, [0x3C1]), (0x1D71B, [0x3C0]),
  (0x1D71C, [0x391]), (0x1D71D, [0x392]), (0x1D71E, [0x393]), (0x1D71F, [0x394]),
  (0x1D720, [0x395]), (0x1D721, [0x396]), (0x1D722, [0x397]), (0x1D723, [0x398]),
  (0x1D724, [0x399]), (0x1D725, [0x39A]), (0x1D726, [0x39B]), (0x1D727, [0x39C]),
  (0x1D728, [0x39D]), (0x1D729, [0x39E]), (0x1D72A, [0x39F]), (0x1D72B, [0x3A0]),
  (0x1D72C, [0x3A1]), (0x1D72D, [0x398]), (0x1D72E, [0x3A3]), (0x1D72F, [0x3A4]),
  (0x1D730, [0x3A5]), (0x1D731, [0x3A6]), (0x1D732, [0x3A7]), (0x1D733, [0x3A8]),
  (0x1D734, [0x3A9]), (0x1D735, [0x2207]), (0x1D736, [0x3B1]), (0x1D737, [0x3B2]),
  (0x1D738, [0x3B3]), (0x1D739, [0x3B4]), (0x1D73A, [0x3B5]), (0x1D73B, [0x3B6]),
  (0x1D73C, [0x3B7]), (0x1D73D, [0x3B8]), (0x1D73E, [0x3B9]), (0x1D73F, [0x3BA]),
  (0x1D740, [0x3BB]), (0x1D741, [0x3BC]), (0x1D742, [0x3BD]), (0x1D743, [0x3BE]),
  (0x1D744, [0x3BF]), (0x1D745, [0x3C0]), (0x1D746, [0x3C1]), (0x1D747, [0x3C2]),
  (0x1D748, [0x3C3]), (0x1D749, [0x3C4]), (0x1D74A, [0x3C5]), (0x1D74B, [0x3C6]),
  (0x1D74C, [0x3C7]), (0x1D74D, [0x3C8]), (0x1D74E, [0x3C9]), (0x1D74F, [0x2202]),
  (0x1D750, [0x3B5]), (0x1D751, [0x3B8]), (0x1D752, [0x3BA]), (0x1D753, [0x3C6]),
  (0x1D754, [0x3C1]), (0x1D755, [0x3C0]), (0x1D756, [0x391]), (0x1D757, [0x392]),
  (0x1D758, [0x393]), (0x1D759, [0x394]), (0x1D75A, [0x395]), (0x1D75B, [0x396]),
  (0x1D75C, [0x397]), (0x1D75D, [0x398]), (0x1D75E, [0x399]), (0x1D75F, [0x39A]),
  (0x1D760, [0x39B]), (0x1D761, [0x39C]), (0x1D762, [0x39D]), (0x1D763, [0x39E]),
  (0x1D764, [0x39F]), (0x1D765, [0x3A0]), (0x1D766, [0x3A1]), (0x1D767, [0x398]),
  (0x1D768, [0x3A3]), (0x1D769, [0x3A4]), (0x1D76A, [0x3A5]), (0x1D76B, [0x3A6]),
  (0x1D76C, [0x3A7]), (0x1D76D, [0x3A8]), (0x1D76E, [0x3A9]), (0x1D76F, [0x2207]),
  (0x1D770, [0x3B1]), (0x1D771, [0x3B2]), (0x1D772, [0x3B3]), (0x1D773, [0x3B4]),
  (0x1D774, [0x3B5]), (0x1D775, [0x3B6]), (0x1D776, [0x3B7]), (0x1D777, [0x3B8]),
  (0x1D778, [0x3B9]), (0x1D779, [0x3BA]), (0x1D77A, [0x3BB]), (0x1D77B, [0x3BC]),
  (0x1D77C, [0x3BD]), (0x1D77D, [0x3BE]), (0x1D77E, [0x3BF]), (0x1D77F, [0x3C0]),
  (0x1D780, [0x3C1]), (0x1D781, [0x3C2]), (0x1D782, [0x3C3]), (0x1D783, [0x3C4]),
  (0x1D784, [0x3C5]), (0x1D785, [0x3C6]), (0x1D786, [0x3C7]), (0x1D787, [0x3C8]),
  (0x1D788, [0x3C9]), (0x1D789, [0x2202]), (0x1D78A, [0x3B5]), (0x1D78B, [0x3B8]),
  (0x1D78C, [0x3BA]), (0x1D78D, [0x3C6]), (0x1D78E, [0x3C1]), (0x1D78F, [0x3C0]),
  (0x1D790, [0x391]), (0x1D791, [0x392]), (0x1D792, [0x393]), (0x1D793, [0x394]),
  (0x1D794, [0x395]), (0x1D795, [0x396]), (0x1D796, [0x397]), (0x1D797, [0x398]),
  (0x1D798, [0x399]), (0x1D799, [0x39A]), (0x1D79A, [0x39B]), (0x1D79B, [0x39C]),
  (0x1D79C, [0x39D]), (0x1D79D, [0x39E]), (0x1D79E, [0x39F]), (0x1D79F, [0x3A0]),
  (0x1D7A0, [0x3A1]), (0x1D7A1, [0x398]), (0x1D7A2, [0x3A3]), (0x1D7A3, [0x3A4]),
  (0x1D7A4, [0x3A5]), (0x1D7A5, [0x3A6]), (0x1D7A6, [0x3A7]), (0x1D7A7, [0x3A8]),
  (0x1D7A8, [0x3A9]), (0x1D7A9, [0x2207]), (0x1D7AA, [0x3B1]), (0x1D7AB, [0x3B2]),
  (0x1D7AC, [0x3B3]), (0x1D7AD, [0x3B4]), (0x1D7AE, [0x3B5]), (0x1D7AF, [0x3B6]),
  (0x1D7B0, [0x3B7]), (0x1D7B1, [0x3B8]), (0x1D7B2, [0x3B9]), (0x1D7B3, [0x3BA]),
  (0x1D7B4, [0x3BB]), (0x1D7B5, [0x3BC]), (0x1D7B6, [0x3BD]), (0x1D7B7, [0x3BE]),
  (0x1D7B8, [0x3BF]), (0x1D7B9, [0x3C0]), (0x1D7BA, [0x3C1]), (0x1D7BB, [0x3C2]),
  (0x1D7BC, [0x3C3]), (0x1D7BD, [0x3C4]), (0x1D7BE, [0x3C5]), (0x1D7BF, [0x3C6]),
  (0x1D7C0, [0x3C7]), (0x1D7C1, [0x3C8]), (0x1D7C2, [0x3C9]), (0x1D7C3, [0x2202]),
  (0x1D7C4, [0x3B5]), (0x1D7C5, [0x3B8]), (0x1D7C6, [0x3BA]), (0x1D7C7, [0x3C6]),
  (0x1D7C8, [0x3C1]), (0x1D7C9, [0x3C0]), (0x1D7CA, [0x3DC]), (0x1D7CB, [0x3DD]),
  (0x1D7CE, [0x30]), (0x1D7CF, [0x31]), (0x1D7D0, [0x32]), (0x1D7D1, [0x33]), (0x1D7D2, [0x34]),
  (0x1D7D3, [0x35]), (0x1D7D4, [0x36]), (0x1D7D5, [0x37]), (0x1D7D6, [0x38]), (0x1D7D7, [0x39]),
  (0x1D7D8, [0x30]), (0x1D7D9, [0x31]), (0x1D7DA, [0x32]), (0x1D7DB, [0x33]), (0x1D7DC, [0x34]),
  (0x1D7DD, [0x35]), (0x1D7DE, [0x36]), (0x1D7DF, [0x37]), (0x1D7E0, [0x38]), (0x1D7E1, [0x39]),
  (0x1D7E2, [0x30]), (0x1D7E3, [0x31]), (0x1D7E4, [0x32]), (0x1D7E5, [0x33]), (0x1D7E6, [0x34]),
  (0x1D7E7, [0x35]), (0x1D7E8, [0x36]), (0x1D7E9, [0x37]), (0x1D7EA, [0x38]), (0x1D7EB, [0x39]),
  (0x1D7EC, [0x30]), (0x1D7ED, [0x31]), (0x1D7EE, [0x32]), (0x1D7EF, [0x33]), (0x1D7F0, [0x34]),
  (0x1D7F1, [0x35]), (0x1D7F2, [0x36]), (0x1D7F3, [0x37]), (0x1D7F4, [0x38]), (0x1D7F5, [0x39]),
  (0x1D7F6, [0x30]), (0x1D7F7, [0x31]), (0x1D7F8, [0x32]), (0x1D7F9, [0x33]), (0x1D7FA, [0x34]),
  (0x1D7FB, [0x35]), (0x1D7FC, [0x36]), (0x1D7FD, [0x37]), (0x1D7FE, [0x38]), (0x1D7FF, [0x39])]

def page1E0 : List (Nat × List Nat) := [
  (0x1E030, [0x430]), (0x1E031, [0x431]), (0x1E032, [0x432]), (0x1E033, [0x433]),
  (0x1E034, [0x434]), (0x1E035, [0x435]), (0x1E036, [0x436]), (0x1E037, [0x437]),
  (0x1E038, [0x438]), (0x1E039, [0x43A]), (0x1E03A, [0x43B]), (0x1E03B, [0x43C]),
  (0x1E03C, [0x43E]), (0x1E03D, [0x43F]), (0x1E03E, [0x440]), (0x1E03F, [0x441]),
  (0x1E040, [0x442]), (0x1E041, [0x443]), (0x1E042, [0x444]), (0x1E043, [0x445]),
  (0x1E044, [0x446]), (0x1E045, [0x447]), (0x1E046, [0x448]), (0x1E047, [0x44B]),
  (0x1E048, [0x44D]), (0x1E049, [0x44E]), (0x1E04A, [0xA689]), (0x1E04B, [0x4D9]),
  (0x1E04C, [0x456]), (0x1E04D, [0x458]), (0x1E04E, [0x4E9]), (0x1E04F, [0x4AF]),
  (0x1E050, [0x4CF]), (0x1E051, [0x430]), (0x1E052, [0x431]), (0x1E053, [0x432]),
  (0x1E054, [0x433]), (0x1E055, [0x434]), (0x1E056, [0x435]), (0x1E057, [0x436]),
  (0x1E058, [0x437]), (0x1E059, [0x438]), (0x1E05A, [0x43A]), (0x1E05B, [0x43B]),
  (0x1E05C, [0x43E]), (0x1E05D, [0x43F]), (0x1E05E, [0x441]), (0x1E05F, [0x443]),
  (0x1E060, [0x444]), (0x1E061, [0x445]), (0x1E062, [0x446]), (0x1E063, [0x447]),
  (0x1E064, [0x448]), (0x1E065, [0x44A]), (0x1E066, [0x44B]), (0x1E067, [0x491]),
  (0x1E068, [0x456]), (0x1E069, [0x455]), (0x1E06A, [0x45F]), (0x1E06B, [0x4AB]),
  (0x1E06C, [0xA651]), (0x1E06D, [0x4B1])]

def page1EE : List (Nat × List Nat) := [
  (0x1EE00, [0x627]), (0x1EE01, [0x628]), (0x1EE02, [0x62C]), (0x1EE03, [0x62F]),
  (0x1EE05, [0x648]), (0x1EE06, [0x632]), (0x1EE07, [0x62D]), (0x1EE08, [0x637]),
  (0x1EE09, [0x64A]), (0x1EE0A, [0x643]), (0x1EE0B, [0x644]), (0x1EE0C, [0x645]),
  (0x1EE0D, [0x646]), (0x1EE0E, [0x633]), (0x1EE0F, [0x639]), (0x1EE10, [0x641]),
  (0x1EE11, [0x635]), (0x1EE12, [0x642]), (0x1EE13, [0x631]), (0x1EE14, [0x634]),
  (0x1EE15, [0x62A]), (0x1EE16, [0x62B]), (0x1EE17, [0x62E]), (0x1EE18, [0x630]),
  (0x1EE19, [0x636]), (0x1EE1A, [0x638]), (0x1EE1B, [0x63A]), (0x1EE1C, [0x66E]),
  (0x1EE1D, [0x6BA]), (0x1EE1E, [0x6A1]), (0x1EE1F, [0x66F]), (0x1EE21, [0x628]),
  (0x1EE22, [0x62C]), (0x1EE24, [0x647]), (0x1EE27, [0x62D]), (0x1EE29, [0x64A]),
  (0x1EE2A, [0x643]), (0x1EE2B, [0x644]), (0x1EE2C, [0x645]), (0x1EE2D, [0x646]),
  (0x1EE2E, [0x633]), (0x1EE2F, [0x639]), (0x1EE30, [0x641]), (0x1EE31, [0x635]),
  (0x1EE32, [0x642]), (0x1EE34, [0x634]), (0x1EE35, [0x62A]), (0x1EE36, [0x62B]),
  (0x1EE37, [0x62E]), (0x1EE39, [0x636]), (0x1EE3B, [0x63A]), (0x1EE42, [0x62C]),
  (0x1EE47, [0x62D]), (0x1EE49, [0x64A]), (0x1EE4B, [0x644]), (0x1EE4D, [0x646]),
  (0x1EE4E, [0x633]), (0x1EE4F, [0x639]), (0x1EE51, [0x635]), (0x1EE52, [0x642]),
  (0x1EE54, [0x634]), (0x1EE57, [0x62E]), (0x1EE59, [0x636]), (0x1EE5B, [0x63A]),
  (0x1EE5D, [0x6BA]), (0x1EE5F, [0x66F]), (0x1EE61, [0x628]), (0x1EE62, [0x62C]),
  (0x1EE64, [0x647]), (0x1EE67, [0x62D]), (0x1EE68, [0x637]), (0x1EE69, [0x64A]),
  (0x1EE6A, [0x643]), (0x1EE6C, [0x645]), (0x1EE6D, [0x646]), (0x1EE6E, [0x633]),
  (0x1EE6F, [0x639]), (0x1EE70, [0x641]), (0x1EE71, [0x635]), (0x1EE72, [0x642]),
  (0x1EE74, [0x634]), (0x1EE75, [0x62A]), (0x1EE76, [0x62B]), (0x1EE77, [0x62E]),
  (0x1EE79, [0x636]), (0x1EE7A, [0x638]), (0x1EE7B, [0x63A]), (0x1EE7C, [0x66E]),
  (0x1EE7E, [0x6A1]), (0x1EE80, [0x627]), (0x1EE81, [0x628]), (0x1EE82, [0x62C]),
  (0x1EE83, [0x62F]), (0x1EE84, [0x647]), (0x1EE85, [0x648]), (0x1EE86, [0x632]),
  (0x1EE87, [0x62D]), (0x1EE88, [0x637]), (0x1EE89, [0x64A]), (0x1EE8B, [0x644]),
  (0x1EE8C, [0x645]), (0x1EE8D, [0x646]), (0x1EE8E, [0x633]), (0x1EE8F, [0x639]),
  (0x1EE90, [0x641]), (0x1EE91, [0x635]), (0x1EE92, [0x642]), (0x1EE93, [0x631]),
  (0x1EE94, [0x634]), (0x1EE95, [0x62A]), (0x1EE96, [0x62B]), (0x1EE97, [0x62E]),
  (0x1EE98, [0x630]), (0x1EE99, [0x636]), (0x1EE9A, [0x638]), (0x1EE9B, [0x63A]),
  (0x1EEA1, [0x628]), (0x1EEA2, [0x62C]), (0x1EEA3, [0x62F]), (0x1EEA5, [0x648]),
  (0x1EEA6, [0x632]), (0x1EEA7, [0x62D]), (0x1EEA8, [0x637]), (0x1EEA9, [0x64A]),
  (0x1EEAB, [0x644]), (0x1EEAC, [0x645]), (0x1EEAD, [0x646]), (0x1EEAE, [0x633]),
  (0x1EEAF, [0x639]), (0x1EEB0, [0x641]), (0x1EEB1, [0x635]), (0x1EEB2, [0x642]),
  (0x1EEB3, [0x631]), (0x1EEB4, [0x634]), (0x1EEB5, [0x62A]), (0x1EEB6, [0x62B]),
  (0x1EEB7, [0x62E]), (0x1EEB8, [0x630]), (0x1EEB9, [0x636]), (0x1EEBA, [0x638]),
  (0x1EEBB, [0x63A])]

def page1F1 : List (Nat × List Nat) := [
  (0x1F100, [0x30, 0x2E]), (0x1F101, [0x30, 0x2C]), (0x1F102, [0x31, 0x2C]),
  (0x1F103, [0x32, 0x2C]), (0x1F104, [0x33, 0x2C]), (0x1F105, [0x34, 0x2C]),
  (0x1F106, [0x35, 0x2C]), (0x1F107, [0x36, 0x2C]), (0x1F108, [0x37, 0x2C]),
  (0x1F109, [0x38, 0x2C]), (0x1F10A, [0x39, 0x2C]), (0x1F110, [0x28, 0x41, 0x29]),
  (0x1F111, [0x28, 0x42, 0x29]), (0x1F112, [0x28, 0x43, 0x29]), (0x1F113, [0x28, 0x44, 0x29]),
  (0x1F114, [0x28, 0x45, 0x29]), (0x1F115, [0x28, 0x46, 0x29]), (0x1F116, [0x28, 0x47, 0x29]),
  (0x1F117, [0x28, 0x48, 0x29]), (0x1F118, [0x28, 0x49, 0x29]), (0x1F119, [0x28, 0x4A, 0x29]),
  (0x1F11A, [0x28, 0x4B, 0x29]), (0x1F11B, [0x28, 0x4C, 0x29]), (0x1F11C, [0x28, 0x4D, 0x29]),
  (0x1F11D, [0x28, 0x4E, 0x29]), (0x1F11E, [0x28, 0x4F, 0x29]), (0x1F11F, [0x28, 0x50, 0x29]),
  (0x1F120, [0x28, 0x51, 0x29]), (0x1F121, [0x28, 0x52, 0x29]), (0x1F122, [0x28, 0x53, 0x29]),
  (0x1F123, [0x28, 0x54, 0x29]), (0x1F124, [0x28, 0x55, 0x29]), (0x1F125, [0x28, 0x56, 0x29]),
  (0x1F126, [0x28, 0x57, 0x29]), (0x1F127, [0x28, 0x58, 0x29]), (0x1F128, [0x28, 0x59, 0x29]),
  (0x1F129, [0x28, 0x5A, 0x29]), (0x1F12A, [0x3014, 0x53, 0x3015]), (0x1F12B, [0x43]),
  (0x1F12C, [0x52]), (0x1F12D, [0x43, 0x44]), (0x1F12E, [0x57, 0x5A]), (0x1F130, [0x41]),
  (0x1F131, [0x42]), (0x1F132, [0x43]), (0x1F133, [0x44]), (0x1F134, [0x45]), (0x1F135, [0x46]),
  (0x1F136, [0x47]), (0x1F137, [0x48]), (0x1F138, [0x49]), (0x1F139, [0x4A]), (0x1F13A, [0x4B]),
  (0x1F13B, [0x4C]), (0x1F13C, [0x4D]), (0x1F13D, [0x4E]), (0x1F13E, [0x4F]), (0x1F13F, [0x50]),
  (0x1F140, [0x51]), (0x1F141, [0x52]), (0x1F142, [0x53]), (0x1F143, [0x54]), (0x1F144, [0x55]),
  (0x1F145, [0x56]), (0x1F146, [0x57]), (0x1F147, [0x58]), (0x1F148, [0x59]), (0x1F149, [0x5A]),
  (0x1F14A, [0x48, 0x56]), (0x1F14B, [0x4D, 0x56]), (0x1F14C, [0x53, 0x44]),
  (0x1F14D, [0x53, 0x53]), (0x1F14E, [0x50, 0x50, 0x56]), (0x1F14F, [0x57, 0x43]),
  (0x1F16A, [0x4D, 0x43]), (0x1F16B, [0x4D, 0x44]), (0x1F16C, [0x4D, 0x52]),
  (0x1F190, [0x44, 0x4A])]

def page1F2 : List (Nat × List Nat) := [
  (0x1F200, [0x307B, 0x304B]), (0x1F201, [0x30B3, 0x30B3]), (0x1F202, [0x30B5]),
  (0x1F210, [0x624B]), (0x1F211, [0x5B57]), (0x1F212, [0x53CC]), (0x1F213, [0x30C6, 0x3099]),
  (0x1F214, [0x4E8C]), (0x1F215, [0x591A]), (0x1F216, [0x89E3]), (0x1F217, [0x5929]),
  (0x1F218, [0x4EA4]), (0x1F219, [0x6620]), (0x1F21A, [0x7121]), (0x1F21B, [0x6599]),
  (0x1F21C, [0x524D]), (0x1F21D, [0x5F8C]), (0x1F21E, [0x518D]), (0x1F21F, [0x65B0]),
  (0x1F220, [0x521D]), (0x1F221, [0x7D42]), (0x1F222, [0x751F]), (0x1F223, [0x8CA9]),
  (0x1F224, [0x58F0]), (0x1F225, [0x5439]), (0x1F226, [0x6F14]), (0x1F227, [0x6295]),
  (0x1F228, [0x6355]), (0x1F229, [0x4E00]), (0x1F22A, [0x4E09]), (0x1F22B, [0x904A]),
  (0x1F22C, [0x5DE6]), (0x1F22D, [0x4E2D]), (0x1F22E, [0x53F3]), (0x1F22F, [0x6307]),
  (0x1F230, [0x8D70]), (0x1F231, [0x6253]), (0x1F232, [0x7981]), (0x1F233, [0x7A7A]),
  (0x1F234, [0x5408]), (0x1F235, [0x6E80]), (0x1F236, [0x6709]), (0x1F237, [0x6708]),
  (0x1F238, [0x7533]), (0x1F239, [0x5272]), (0x1F23A, [0x55B6]), (0x1F23B, [0x914D]),
  (0x1F240, [0x3014, 0x672C, 0x3015]), (0x1F241, [0x3014, 0x4E09, 0x3015]),
  (0x1F242, [0x3014, 0x4E8C, 0x3015]), (0x1F243, [0x3014, 0x5B89, 0x3015]),
  (0x1F244, [0x3014, 0x70B9, 0x3015]), (0x1F245, [0x3014, 0x6253, 0x3015]),
  (0x1F246, [0x3014, 0x76D7, 0x3015]), (0x1F247, [0x3014, 0x52DD, 0x3015]),
  (0x1F248, [0x3014, 0x6557, 0x3015]), (0x1F250, [0x5F97]), (0x1F251, [0x53EF])]

def page1FB : List (Nat × List Nat) := [
  (0x1FBF0, [0x30]), (0x1FBF1, [0x31]), (0x1FBF2, [0x32]), (0x1FBF3, [0x33]), (0x1FBF4, [0x34]),
  (0x1FBF5, [0x35]), (0x1FBF6, [0x36]), (0x1FBF7, [0x37]), (0x1FBF8, [0x38]), (0x1FBF9, [0x39])]

def mathematical : List (Nat × List (Nat × List Nat)) := [
  (0x105, page105), (0x107, page107), (0x110, page110), (0x111, page111), (0x113, page113),
  (0x114, page114), (0x115, page115), (0x119, page119), (0x161, page161), (0x16D, page16D),
  (0x1CC, page1CC), (0x1D1, page1D1), (0x1D4, page1D4), (0x1D5, page1D5), (0x1D6, page1D6),
  (0x1D7, page1D7), (0x1E0, page1E0), (0x1EE, page1EE), (0x1F1, page1F1), (0x1F2, page1F2),
  (0x1FB, page1FB)]

end Gazetteer.Text.Decomposition
