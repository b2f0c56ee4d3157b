import MncsCompiler.Source.Bytes

/-!
# `Source.Unicode` — scalar classification

The generated identifier classifiers of `source.mncs`: for each property and each plane that has members, a
sorted table of closed intervals packed as `low * 2097152 + high`, searched by twelve bisection passes.
`White_Space` is owned by the standard library (`mncs.std.text_utf8.v1`) and follows the Unicode property.
-/

namespace MncsCompiler

open BoundedLoop

structure UnicodeRangeSearch where
  low : Nat
  high : Nat
  found : Bool
  deriving DecidableEq, Repr

/-- One bisection pass. An inactive pass still reads entry 0, and changes nothing. -/
def unicodeRangeStep (ranges : List Nat) (value : Nat) (state : UnicodeRangeSearch) : UnicodeRangeSearch :=
  let active := state.low < state.high && !state.found
  let midpoint := if active then (state.low + state.high) / 2 else 0
  let packed := ranges.getD midpoint 0
  let low := packed / 2097152
  let high := packed % 2097152
  if !active then state
  else if value < low then { state with high := midpoint }
  else if value > high then { state with low := midpoint + 1 }
  else { state with found := true }

/-- The search every plane table shares. -/
def unicodeRangeSearch (ranges : List Nat) (value : Nat) : Bool :=
  ((unicodeRangeStep ranges value)^[12] { low := 0, high := ranges.length, found := false }).found

/-! ## `alphabetic` (759 intervals above ASCII) -/

def alphabeticRanges0 : List Nat := [
  356516010, 379584693, 390070458, 402653398, 452985078, 520094401, 1488978641, 1543504612,
  1568670444, 1572864750, 1755317061, 1818231668, 1858077559, 1866466173, 1876951935, 1891632006,
  1895826314, 1904214924, 1908409249, 1952449525, 2128610433, 2436891951, 2787116374, 2871002457,
  2885682568, 3053454781, 3084912063, 3089106370, 3095397829, 3101689287, 3120563690, 3185575410,
  3254781466, 3288335959, 3407873631, 3451913939, 3667920604, 3693086440, 3718252271, 3745515260,
  3756001023, 3791652671, 3919579057, 4181723114, 4269803509, 4282386426, 4294969367, 4349495340,
  4429187160, 4496296042, 4529850503, 4582279311, 4611639447, 4630513865, 4739565791, 4771023081,
  4798286139, 4959766860, 4995418448, 5010098531, 5068818819, 5110761868, 5131733392, 5140122024,
  5188356528, 5205133746, 5213522361, 5228202436, 5249173960, 5257562572, 5263854030, 5282728407,
  5293214173, 5299505635, 5335157233, 5360323068, 5370808835, 5379197450, 5400168976, 5408557608,
  5456792112, 5473569331, 5479860790, 5486152249, 5498735170, 5517609544, 5525998156, 5538581073,
  5555358300, 5565844062, 5603592821, 5639244419, 5647633037, 5668604561, 5676993192, 5725227696,
  5742004915, 5748296377, 5765073605, 5786045129, 5794433740, 5804919504, 5838473955, 5890902780,
  5907680003, 5916068620, 5937040144, 5945428776, 5993663280, 6010440499, 6016731961, 6033509188,
  6054480712, 6062869324, 6085938007, 6098520925, 6104812387, 6142561137, 6178212739, 6184504202,
  6203378576, 6211767189, 6226447258, 6232738716, 6236933023, 6247418788, 6257904554, 6270487481,
  6304041922, 6320819144, 6329207756, 6341790672, 6356470743, 6442454028, 6471814160, 6480202792,
  6530534457, 6570380356, 6589254728, 6597643340, 6620712022, 6627003482, 6635392093, 6643780707,
  6710889603, 6721375372, 6740249744, 6748638376, 6798970035, 6822038713, 6838815940, 6857690312,
  6866078924, 6889147606, 6903827678, 6912216291, 6947867891, 6979325196, 7008685328, 7017073978,
  7107251524, 7126125896, 7134514508, 7142903118, 7155486039, 7178554723, 7235177855, 7249857923,
  7258246550, 7302286769, 7354715579, 7375687101, 7381978566, 7413435860, 7428115926, 7432310239,
  7486836211, 7518293562, 7650414150, 7677677133, 7786729090, 7793020548, 7797214858, 7809797795,
  7862226597, 7866420921, 7908363965, 7918849732, 7931432646, 7946112717, 7977570015, 8053067520,
  8187285319, 8206159724, 8290045827, 8338280343, 8373931964, 8589938742, 8707379256, 8713670719,
  8757710991, 8912900253, 8925483205, 9007272135, 9019855053, 9026146554, 9118421576, 9818870349,
  9831453270, 9848230488, 9852424797, 9865007752, 9953088141, 9965671088, 10036974261, 10049557182,
  10066334400, 10070528709, 10083111638, 10116666128, 10238300949, 10250883930, 10468987791, 10536096757,
  10720646141, 10739521132, 12043949695, 12081698458, 12146710250, 12310288120, 12348036883, 12413048627,
  12482254675, 12549363564, 12578723696, 12587112307, 12616472499, 12729718728, 12798924759, 12809410524,
  12952017016, 13153343658, 13254007029, 13421779230, 13488888107, 13522442552, 13589551469, 13656660340,
  13690214827, 13790878153, 13958650395, 14025759326, 14162074228, 14308874919, 14359206592, 14386469582,
  14495521587, 14606670659, 14640225100, 14763957161, 14856231855, 14885592037, 14979963889, 15032392758,
  15193873487, 15221136509, 15300828298, 15334382778, 15428754623, 15521029356, 15531515123, 15546195190,
  15556680954, 15569264063, 16011763188, 16106135317, 16693337885, 16710115141, 16794001229, 16810778455,
  16829652825, 16833847131, 16838041437, 16842235773, 16911441844, 17024688060, 17041465278, 17049853892,
  17058242508, 17079214035, 17091796955, 17112768492, 17150517236, 17158905852, 17416855665, 17446215807,
  17481867420, 17720942850, 17731428615, 17737720083, 17760788757, 17769177373, 17792246052, 17796440358,
  17800634664, 17804828973, 17815314745, 17842577727, 17861452105, 17880326478, 17918075272, 19709043945,
  23622331620, 24115162350, 24129842419, 24159202597, 24240991527, 24253574445, 24259865959, 24391986543,
  24427638166, 24494747046, 24511524270, 24528301494, 24545078718, 24561855942, 24578633166, 24595410390,
  24612187614, 24628964863, 24794639919, 25780301831, 25839022121, 25872576565, 25887256636, 25906131094,
  26099069087, 26107457786, 26298298623, 26317173039, 26409447822, 26642231743, 26810003967, 27917307327,
  41875973260, 88483079421, 88583742988, 89154168351, 89208694315, 89254831726, 89363883643, 89386952431,
  89705719583, 89728788360, 89948989404, 90162898949, 90209036327, 90328574067, 90462791875, 90607495365,
  90701867255, 90720741627, 90724935935, 90752198954, 90831890770, 90932554108, 90999663026, 91108714943,
  91165338063, 91200989679, 91255515646, 91268098614, 91402316365, 91469425270, 91523951294, 91670751936,
  91674946242, 91727375069, 91737860847, 91775609589, 91807066886, 91823844110, 91840621334, 91872078630,
  91888855854, 91905633114, 91997907817, 92039850986, 92341852067, 115796400070, 115853023227, 133680921197,
  134452673241, 134754663174, 134794509079, 134815480616, 134842743606, 134872103740, 134884686654, 134888880961,
  134895172420, 134901463985, 135197162813, 135996177807, 136134589895, 136331722235, 136600157812, 136612740860,
  136971353914, 137038462810, 137116057534, 137308995527, 137325772751, 137342549975, 137359327196]

def alphabeticRanges1 : List Nat := [
  137439019019, 137466282022, 137522905146, 137564848189, 137571139661, 137606791261, 137707454714, 138110108020,
  138781196956, 138848305872, 139049632543, 139144004426, 139217404794, 139318068125, 139385177027, 139469063119,
  139487937493, 139586503837, 139955602643, 140039488763, 140123374887, 140224038243, 140358255994, 140383421834,
  140416976274, 140433753493, 140440044961, 140465210801, 140498765241, 140515542460, 140526028275, 140660246326,
  141331334997, 141398443879, 141465552773, 141480232880, 141570410426, 141733988357, 141750765576, 141754959925,
  141849331768, 141859817532, 141866109013, 141935315062, 142002423966, 142203750642, 142245693685, 142270859541,
  142337968441, 142405077337, 142539295159, 142669318591, 142807730691, 142818216454, 142832896531, 142851770903,
  142860159541, 143009057404, 143076166300, 143210384071, 143229258468, 143344601909, 143478819669, 143545928562,
  143613037457, 143881473096, 144149908658, 144284126450, 144418344231, 144573533541, 144638545257, 144651128197,
  145223650985, 145313828524, 145324314289, 145362063047, 145479503612, 145492086556, 145573875495, 145592749893,
  145726967681, 145861185476, 145961848822, 146028957765, 146265935989, 146297393336, 146435805378, 146465165544,
  146565828914, 146708435271, 146733601138, 146813292918, 146834264511, 146970579396, 146997842383, 147023008218,
  147027202524, 147102700049, 147142545972, 147218043447, 147232723521, 147371135622, 147387912840, 147392107149,
  147402592925, 147436147368, 147471799016, 147639571203, 147650056972, 147671028496, 147679417128, 147727651632,
  147744428851, 147750720313, 147767497540, 147788469064, 147796857676, 147807343440, 147822023511, 147834606435,
  147908006793, 147931075467, 147937366926, 147941561269, 148023350208, 148046418882, 148052710341, 148056904650,
  148067390413, 148077876177, 148082070483, 148176442433, 148316951621, 148325340234, 148375671905, 148444878017,
  148587484357, 148593775815, 148981749173, 149099189694, 149166298589, 149250184766, 149384402496, 149392791108,
  149518620341, 149636060856, 149787055898, 149847873322, 149921273670, 150323927096, 150659471583, 150858701062,
  150879672585, 150885964051, 150904838422, 150911129909, 150976141624, 150984530236, 150992918850, 151196342695,
  151217314263, 151317977567, 151332657633, 151336851940, 151397669426, 151508818494, 151565441687, 151726922397,
  151766768376, 152135867239, 152337193952, 152471411720, 152492383286, 152588852286, 152605629504, 152710487183,
  152777596071, 152825830582, 153008282886, 153025060105, 153031351606, 153129917754, 153134112061, 153140403521,
  153148792131, 153155083591, 153209609573, 153224289640, 153230581134, 153310272913, 153316564374, 153327050136,
  153377381851, 154014916342, 154082025232, 154119774010, 154212048704, 154451124144, 154618897305, 156766381166,
  157034816835, 162973954032, 163208836143, 165492634694, 165557650426, 173946259014, 189515522350, 193273621048,
  194481580638, 194582244030, 194783570669, 194884234031, 195018451779, 195091852151, 195146378127, 196092194156,
  196629065343, 196830391992, 196887015123, 197031718730, 197197393799, 197331611551, 197501480929, 197507772387,
  197535035382, 197568597205, 213135756574, 213406289394, 231894790131, 231905275899, 231922053118, 231928344866,
  232570073394, 232632987986, 232643473749, 232674931047, 232700097275, 238370798698, 238605679740, 238639234184,
  238672788633, 238702148766, 251255706708, 251436061852, 251587056799, 251595445410, 251601736870, 251610125484,
  251620611257, 251647874235, 251652068547, 251668845829, 251807257866, 251819840788, 251838715164, 251855492409,
  251916309822, 251926795588, 251939378502, 251947767120, 251964544677, 252681770688, 252736296666, 252790822650,
  252857931540, 252912457524, 252979566414, 253034092398, 253101201288, 253155727272, 253222836162, 253277362123,
  257161289502, 257238884138, 257698160646, 257714937880, 257754783777, 257771560996, 257777852458, 257798824045,
  257998053519, 258235031852, 258350375229, 258398609742, 259073893037, 259174556395, 260281853163, 260818724333,
  260885833200, 261322041054, 261389149941, 261452064511, 261926021094, 261942798315, 261953284078, 261959575550,
  261993130180, 262530001219, 262678899015, 262687287627, 265214356995, 265224842783, 265283563042, 265289854500,
  265296145959, 265300340274, 265323408951, 265333894713, 265338089019, 265352769090, 265363254855, 265367449161,
  265371643467, 265375837775, 265384226386, 265390517844, 265396809303, 265401003609, 265405197915, 265409392221,
  265413586527, 265417780834, 265424072292, 265430363754, 265440849522, 265457626743, 265468112508, 265478598270,
  265482792585, 265505861275, 265551998627, 265560387241, 265572970171, 266925633865, 266992742761, 267059851657]

def alphabeticRanges2 : List Nat := [
  274878080735, 364535527453, 373729447597, 385842605024, 401546079837, 408022088221]

def alphabeticRanges3 : List Nat := [
  412317061962, 422685389945]

def unicodeAlphabeticPlane0 (value : Nat) : Bool := unicodeRangeSearch alphabeticRanges0 value
def unicodeAlphabeticPlane1 (value : Nat) : Bool := unicodeRangeSearch alphabeticRanges1 value
def unicodeAlphabeticPlane2 (value : Nat) : Bool := unicodeRangeSearch alphabeticRanges2 value
def unicodeAlphabeticPlane3 (value : Nat) : Bool := unicodeRangeSearch alphabeticRanges3 value

def unicodeAlphabetic (value : Nat) : Bool :=
  if value < 128 || value > 1114111 then false
  else match value / 65536 with
    | 0 => unicodeAlphabeticPlane0 value
    | 1 => unicodeAlphabeticPlane1 value
    | 2 => unicodeAlphabeticPlane2 value
    | 3 => unicodeAlphabeticPlane3 value
    | _ => false

/-! ## `alphanumeric` (841 intervals above ASCII) -/

def alphanumericRanges0 : List Nat := [
  356516010, 373293235, 379584693, 387973306, 394264766, 402653398, 452985078, 520094401,
  1488978641, 1543504612, 1568670444, 1572864750, 1755317061, 1818231668, 1858077559, 1866466173,
  1876951935, 1891632006, 1895826314, 1904214924, 1908409249, 1952449525, 2128610433, 2436891951,
  2787116374, 2871002457, 2885682568, 3053454781, 3084912063, 3089106370, 3095397829, 3101689287,
  3120563690, 3185575410, 3254781466, 3288335959, 3407873641, 3451913939, 3667920604, 3693086440,
  3718252284, 3756001023, 3791652671, 3919579057, 4160751594, 4269803509, 4282386426, 4294969367,
  4349495340, 4429187160, 4496296042, 4529850503, 4582279311, 4611639447, 4630513865, 4739565791,
  4771023081, 4798286139, 4959766860, 4995418448, 5010098531, 5045750127, 5068818819, 5110761868,
  5131733392, 5140122024, 5188356528, 5205133746, 5213522361, 5228202436, 5249173960, 5257562572,
  5263854030, 5282728407, 5293214173, 5299505635, 5314185713, 5343545849, 5360323068, 5370808835,
  5379197450, 5400168976, 5408557608, 5456792112, 5473569331, 5479860790, 5486152249, 5498735170,
  5517609544, 5525998156, 5538581073, 5555358300, 5565844062, 5582621301, 5639244419, 5647633037,
  5668604561, 5676993192, 5725227696, 5742004915, 5748296377, 5765073605, 5786045129, 5794433740,
  5804919504, 5838473955, 5851056879, 5890902780, 5907680003, 5916068620, 5937040144, 5945428776,
  5993663280, 6010440499, 6016731961, 6033509188, 6054480712, 6062869324, 6085938007, 6098520925,
  6104812387, 6119492463, 6142561143, 6178212739, 6184504202, 6203378576, 6211767189, 6226447258,
  6232738716, 6236933023, 6247418788, 6257904554, 6270487481, 6304041922, 6320819144, 6329207756,
  6341790672, 6356470743, 6387928050, 6442454028, 6471814160, 6480202792, 6530534457, 6570380356,
  6589254728, 6597643340, 6620712022, 6627003482, 6635392093, 6643780707, 6656363631, 6694112382,
  6710889603, 6721375372, 6740249744, 6748638376, 6798970035, 6822038713, 6838815940, 6857690312,
  6866078924, 6889147606, 6903827678, 6912216291, 6924799215, 6947867891, 6979325196, 7008685328,
  7017073978, 7107251524, 7126125896, 7134514508, 7142903118, 7155486051, 7193234808, 7235177855,
  7249857923, 7258246550, 7302286769, 7354715579, 7375687101, 7381978566, 7413435860, 7428115926,
  7432310239, 7461670383, 7486836211, 7518293562, 7650414150, 7677677133, 7683968601, 7786729090,
  7793020548, 7797214858, 7809797795, 7862226597, 7866420921, 7908363965, 7918849732, 7931432646,
  7946112717, 7952404185, 7977570015, 8053067520, 8120176435, 8187285319, 8206159724, 8290045827,
  8338280343, 8373931964, 8589938742, 8707379256, 8713670729, 8757711005, 8925483205, 9007272135,
  9019855053, 9026146554, 9118421576, 9818870349, 9831453270, 9848230488, 9852424797, 9865007752,
  9953088141, 9965671088, 10036974261, 10049557182, 10066334400, 10070528709, 10083111638, 10116666128,
  10238300949, 10250883930, 10420753276, 10468987791, 10536096757, 10720646141, 10739521132, 12043949695,
  12081698458, 12146710250, 12310288120, 12348036883, 12413048627, 12482254675, 12549363564, 12578723696,
  12587112307, 12616472499, 12729718728, 12798924759, 12809410524, 12817799145, 12851353593, 12918462489,
  12952017016, 13153343658, 13254007029, 13421779230, 13488888107, 13522442552, 13568579949, 13656660340,
  13690214827, 13790878153, 13857987034, 13958650395, 14025759326, 14162074228, 14227085961, 14260640409,
  14308874919, 14359206592, 14386469582, 14495521587, 14606670659, 14640225100, 14663293785, 14763957161,
  14856231909, 14979963889, 15032392758, 15166610505, 15193873533, 15300828298, 15334382778, 15428754623,
  15521029356, 15531515123, 15546195190, 15556680954, 15569264063, 16011763188, 16106135317, 16693337885,
  16710115141, 16794001229, 16810778455, 16829652825, 16833847131, 16838041437, 16842235773, 16911441844,
  17024688060, 17041465278, 17049853892, 17058242508, 17079214035, 17091796955, 17112768492, 17150517236,
  17158905852, 17414758513, 17423147129, 17446215817, 17481867420, 17720942850, 17731428615, 17737720083,
  17760788757, 17769177373, 17792246052, 17796440358, 17800634664, 17804828973, 17815314745, 17842577727,
  17861452105, 17880326478, 17884520841, 19528688795, 19709043967, 21185439635, 23622331620, 24115162350,
  24129842419, 24152911101, 24159202597, 24240991527, 24253574445, 24259865959, 24391986543, 24427638166,
  24494747046, 24511524270, 24528301494, 24545078718, 24561855942, 24578633166, 24595410390, 24612187614,
  24628964863, 24794639919, 25780301831, 25839022121, 25872576565, 25887256636, 25906131094, 26099069087,
  26107457786, 26298298623, 26317173039, 26409447822, 26612871573, 26642231743, 26810003967, 26910667305,
  26994553423, 27013427807, 27111993993, 27214754495, 27917307327, 41875973260, 88483079421, 88583742988,
  89154168363, 89254831726, 89363883643, 89386952431, 89705719583, 89728788360, 89948989404, 90162898949,
  90209036327, 90295019573, 90328574067, 90462791875, 90607495365, 90630564057, 90701867255, 90720741627,
  90724935978, 90831890770, 90932554108, 90999663026, 91108714943, 91165338073, 91200989694, 91268098614,
  91402316365, 91435870809, 91469425270, 91523951294, 91670751936, 91674946242, 91727375069, 91737860847,
  91775609589, 91807066886, 91823844110, 91840621334, 91872078630, 91888855854, 91905633114, 91997907817,
  92039850986, 92308286457, 92341852067, 115796400070, 115853023227, 133680921197, 134452673241, 134754663174,
  134794509079, 134815480616, 134842743606, 134872103740, 134884686654, 134888880961, 134895172420, 134901463985,
  135197162813, 135996177807, 136134589895, 136331722235, 136600157812, 136612740860, 136935702297, 136971353914,
  137038462810, 137116057534, 137308995527, 137325772751, 137342549975, 137359327196]

def alphanumericRanges1 : List Nat := [
  137439019019, 137466282022, 137522905146, 137564848189, 137571139661, 137606791261, 137707454714, 137990570291,
  138110108024, 138265297291, 138781196956, 138848305872, 138984620795, 139049632547, 139144004426, 139217404794,
  139318068125, 139385177027, 139469063119, 139487937493, 139586503837, 139922048169, 139955602643, 140039488763,
  140123374887, 140224038243, 140358255994, 140383421834, 140416976274, 140433753493, 140440044961, 140465210801,
  140498765241, 140515542460, 140526028275, 140660246326, 141331334997, 141398443879, 141465552773, 141480232880,
  141570410426, 141733988357, 141750765576, 141754959925, 141849331768, 141859817532, 141866109013, 141918537846,
  141987743902, 142084212911, 142203750642, 142245693685, 142260373787, 142337968441, 142405077337, 142539295159,
  142665124303, 142711261699, 142818216454, 142832896531, 142851770903, 142860159541, 142941948488, 143009057406,
  143076166303, 143210384071, 143229258468, 143300561647, 143344601909, 143478819669, 143529151346, 143596260241,
  143699020719, 143881473096, 144149908658, 144284126450, 144405761319, 144519007545, 144552562021, 144638545257,
  144651128197, 145156542078, 145223650985, 145313828524, 145324314289, 145362063047, 145479503612, 145492086567,
  145592749893, 145661955924, 145726967681, 145861185483, 145961848822, 146028957765, 146200924271, 146265935989,
  146297393336, 146435805378, 146465165544, 146532274425, 146565828914, 146679075135, 146708435271, 146733601138,
  146813292918, 146834264511, 146970579396, 146997842394, 147027202524, 147037688308, 147102700049, 147142545972,
  147218043447, 147232723521, 147371135622, 147387912840, 147392107149, 147402592925, 147436147368, 147471799016,
  147606016761, 147639571203, 147650056972, 147671028496, 147679417128, 147727651632, 147744428851, 147750720313,
  147767497540, 147788469064, 147796857676, 147807343440, 147822023511, 147834606435, 147908006793, 147931075467,
  147937366926, 147941561269, 148023350208, 148046418882, 148052710341, 148056904650, 148067390413, 148077876177,
  148082070483, 148176442433, 148316951621, 148325340234, 148344214617, 148375671905, 148444878017, 148587484357,
  148593775815, 148612650201, 148981749173, 149099189694, 149166298589, 149250184766, 149384402496, 149392791108,
  149417956953, 149518620341, 149636060856, 149652838089, 149686392547, 149787055898, 149847873322, 149887719227,
  149921273670, 150323927096, 150659471602, 150858701062, 150879672585, 150885964051, 150904838422, 150911129909,
  150976141624, 150984530236, 150992918850, 151028570457, 151196342695, 151217314263, 151317977567, 151332657633,
  151336851940, 151397669426, 151508818494, 151565441687, 151726922397, 151766768376, 152135867239, 152337193952,
  152437857273, 152471411720, 152492383286, 152588852286, 152605629504, 152639183980, 152710487183, 152777596071,
  152825830582, 153008282886, 153025060105, 153031351606, 153129917754, 153134112061, 153140403521, 153148792131,
  153155083591, 153176055129, 153209609573, 153224289640, 153230581134, 153310272913, 153316564374, 153327050136,
  153343827369, 153377381851, 153478045161, 154014916342, 154082025232, 154119774010, 154212048704, 154249797465,
  154451124144, 154484678612, 154618897305, 156766381166, 157034816835, 162973954032, 163208836143, 165492634694,
  165557650426, 173946259014, 189515522350, 189616185657, 193273621048, 194481580638, 194548689513, 194582244030,
  194750016201, 194783570669, 194884234031, 195018451779, 195052006233, 195075074913, 195091852151, 195146378127,
  196092194156, 196192857465, 196629065366, 196830391992, 196887015123, 197031718730, 197197393799, 197331611551,
  197501480929, 197507772387, 197535035382, 197568597205, 213135756574, 213406289394, 231894790131, 231905275899,
  231922053118, 231928344866, 232570073394, 232632987986, 232643473749, 232674931047, 232700097275, 238370798698,
  238605679740, 238639234184, 238672788633, 238702148766, 247464054009, 250584617683, 250651726579, 250920162168,
  251255706708, 251436061852, 251587056799, 251595445410, 251601736870, 251610125484, 251620611257, 251647874235,
  251652068547, 251668845829, 251807257866, 251819840788, 251838715164, 251855492409, 251916309822, 251926795588,
  251939378502, 251947767120, 251964544677, 252681770688, 252736296666, 252790822650, 252857931540, 252912457524,
  252979566414, 253034092398, 253101201288, 253155727272, 253222836162, 253277362123, 253298333695, 257161289502,
  257238884138, 257698160646, 257714937880, 257754783777, 257771560996, 257777852458, 257798824045, 257998053519,
  258235031852, 258350375229, 258369249609, 258398609742, 259073893037, 259174556395, 259275219705, 260281853163,
  260348962041, 260818724333, 260885833210, 261322041054, 261389149941, 261452064511, 261926021094, 261942798315,
  261953284078, 261959575550, 261993130180, 262410463439, 262530001219, 262678899015, 262687287627, 262697773401,
  264377593003, 264503422127, 264511810740, 264679583021, 264776052029, 265214356995, 265224842783, 265283563042,
  265289854500, 265296145959, 265300340274, 265323408951, 265333894713, 265338089019, 265352769090, 265363254855,
  265367449161, 265371643467, 265375837775, 265384226386, 265390517844, 265396809303, 265401003609, 265405197915,
  265409392221, 265413586527, 265417780834, 265424072292, 265430363754, 265440849522, 265457626743, 265468112508,
  265478598270, 265482792585, 265505861275, 265551998627, 265560387241, 265572970171, 266824970508, 266925633865,
  266992742761, 267059851657, 272696998905]

def alphanumericRanges2 : List Nat := [
  274878080735, 364535527453, 373729447597, 385842605024, 401546079837, 408022088221]

def alphanumericRanges3 : List Nat := [
  412317061962, 422685389945]

def unicodeAlphanumericPlane0 (value : Nat) : Bool := unicodeRangeSearch alphanumericRanges0 value
def unicodeAlphanumericPlane1 (value : Nat) : Bool := unicodeRangeSearch alphanumericRanges1 value
def unicodeAlphanumericPlane2 (value : Nat) : Bool := unicodeRangeSearch alphanumericRanges2 value
def unicodeAlphanumericPlane3 (value : Nat) : Bool := unicodeRangeSearch alphanumericRanges3 value

def unicodeAlphanumeric (value : Nat) : Bool :=
  if value < 128 || value > 1114111 then false
  else match value / 65536 with
    | 0 => unicodeAlphanumericPlane0 value
    | 1 => unicodeAlphanumericPlane1 value
    | 2 => unicodeAlphanumericPlane2 value
    | 3 => unicodeAlphanumericPlane3 value
    | _ => false

/-! ## Identifier and white-space scalars -/

def identifierStartScalar (value : Nat) : Bool :=
  value == 95 || (value < 128 && ((65 ≤ value && value ≤ 90) || (97 ≤ value && value ≤ 122)))
    || unicodeAlphabetic value

def identifierContinueScalar (value : Nat) : Bool :=
  value == 95 || (48 ≤ value && value ≤ 57)
    || (value < 128 && ((65 ≤ value && value ≤ 90) || (97 ≤ value && value ≤ 122)))
    || unicodeAlphanumeric value

/-- The Unicode `White_Space` scalars. -/
def whiteSpaceScalars : List Nat :=
  [0x09, 0x0A, 0x0B, 0x0C, 0x0D, 0x20, 0x85, 0xA0, 0x1680,
   0x2000, 0x2001, 0x2002, 0x2003, 0x2004, 0x2005, 0x2006, 0x2007, 0x2008, 0x2009, 0x200A,
   0x2028, 0x2029, 0x202F, 0x205F, 0x3000]

/-- `text_utf8.is_whitespace_scalar`. -/
def isWhitespaceScalar (value : Nat) : Bool := whiteSpaceScalars.contains value

/-- No white-space scalar starts an identifier, so a token start has one class. -/
theorem whitespace_not_identifierStart {value : Nat} (h : isWhitespaceScalar value = true) :
    identifierStartScalar value = false := by
  have hall : ∀ v ∈ whiteSpaceScalars, identifierStartScalar v = false := by decide +kernel
  exact hall value (List.contains_iff_mem.mp h)

end MncsCompiler
