import HiveDump.Markup.Plane.Basic

/-!
# CNS 11643, plane 4

The fourth plane of CNS 11643, in rows of 94 places. A place that holds nothing is a blank.
-/

namespace HiveDump.Plane

/-- Ideographs of names and variants. -/
def cns4 : Plane := .ofRows
  ["𠂆乀乁乚𡿨丂丩𠄎𠘧刂㔾巜𠔼𠙵勺卂卪孒𡤼尢屮忄扌犭丒丯亖仐兂冃仌𠚥𠚪𠤏𠨎厃厸𠮜𠮛𡈼夨𡯂尣币开𣎴㲸灬爫冈艹辶丗𠁥㐌𠆲㐰仢仛𠑷𠕂冭𠘳凷㓚𠚯𠠶㔓匛厈厇𠬢叏叽㕣叧囜𡆣囙圥圧夳尓𡰥𡰤屵𢁒𢆉𢒿㧄㧃曱𣎵𥝌",
   "罒𨸔𨸒㐁𠂣𠂢乑乪𠆶伌𠆵𠆴仾伛𠇂𠆸㐺𠑹㒫关𠔈冎𠕺𠖶𠚽𠚷𠚼㓝𠛄𠛉劥㔕劧劤𠤰𠦃𠦅𠨒𠨴厽𠫤𠫞𠬪吂𠮯𠮴𠮳𠮱圫夛夵𡗞㚧㚥𡚸𡚰㚦𡧂 尗㝼𡰪屰屽㞩𡿩巩𢁗㠴㠵𢆶𢇗𢇞㢨弙弜彵𢓂𢖫㣿忈𢦏㧇㧆㧈𢩭𢺵㫐㫑𣏀𣎿㱙𣦹𣬜",
   "氒㲽𣲀𤆄𤆅㸨犳𤜤㺩玐甶𦍌䏌𦫶芁辸𨙰䢴𨙵𨸗丣㐖㐬𠇱伮𠇚兏𠖹冺㓟㓠刢𠛎𠛒𠛐㔗𠡃劯劰励𠡍𠤴㔯𠧙卤𠨘叓𠬸㕪𠯗㕰㕭𠯜𠯋𠯖𠯘㕮𠯑呈咞𠯒㘫㘨𡉙 夿𡗥𡗦㚒𡗨妋𡚽妑妕𡚾𡥉㜿𡧍宊㝏㝴𡭞𡯐㝽𡴆㞷㞣㞰㞱岇㞫𡵼𡵱𡿯",
   "㠺㠷帍㠸㡀𢆍𢆷庎㢟𢌳𢍿彺𢗲㤄㤉㤆㣽㤊㤇𢨪𢪋㧊𢪃𢪊抐㧉𢪎抚𢺶攼攺㩿斘𣃘㫒𣅖𣏒来杞㭃𣏂𣢇𣢁𣧂𣦼𣬣㳁𣲓㳅㶣𤆍𤆎㸪㹟𤜻𤝍㹝𤜴𤜱𤣲𤣰㼗𤰕𤴨㽱㽲𤼥𥃧䀏𥃩𥐗秂䆑𦉬𦊀𦍋䎲䏏䏎肞𦣞𦣻臫𦥑芉䒖𦬁𦬂芖𦬅芇𦬃䒗𨑑",
   "迀䢋迃𨑓𨙺𨙸𨙶𨙹𨚏𨙼镸𨸛𨸜阥𣶒乵乴𠄮𠄬㐭𠈌侙𠈋㑐㑋𠈅㑏㑌侮佱兓冿𠗂𠗃净𠙈凮𠙆㓤㓣𠛪㓡𠛫㓢𠛮刽㔙劽匌𠣘𤰞𠧟𠧞㕁缷𠩏叀㕞𠰍𠰈㕹𠰉呮咃𠰒𠱥呞呝坾坹𡊉坺坬𡊄𡊞𡊋㘲垇𡕢夝㚔奆㚗𡗹奃𡗷㚖㚘𡘆𡛝㚲𡛙𡛟𡛢",
   "㚹孡学𠃱宐㝵㝿㝾尩㞏𡰿𡰾𡴋㞽岲𡶃㞻㞼𡶆峀𢁼㠽㠾㡴𢇷㡺㡶㡸㡵𢇻𢌻㢯㢰㣇㣌𢗹𢗊㤖𢗿㤒㤝𢘉𢘃㤕㤏㤔怟忢𢘐𢦚𢦟㦰㦿㧀𢪇㧒㧙𢺷㩺𢼈𢻹㪁㪂𢻴昖旹㫚𦙗枈𣏖枛㭉杮枞𣏔㰢㰟𣢐𣢍㰡欤𣥠𣧎𣧏㱜歽𣧑㱽㲍㲏泦𣳊泋㳐",
   "𣲷㳘𣲲𣲻𣲹沵㶧𤆞炗𤆲炛㸒𤕯𤖬㸯𤘣牫㸮㸬㹜𤝬狕𤜲𤝞㹢㹧㺴𤣻𤬩𤮽𤰟畃𢍁𤰝疜𤴱𤴯㿪𥁃㿻𥁁䀔𥃵䀓䀒䀐䀑𥃲䂆矤䂘𥐞𥝔䄪𥝖𥤩𥤧𥤨竎䊵𦉹𦉾𦒶𦒷耓䏖䏘肷䏙䏔䏗䏕肹 𦙍臤臽舏䑠𦨉𦨈䒞䒡𦬞𦬚𦬣𦬕𦬙𦬖芿苊𦬔𦬘苁",
   "䒠𧈟𧗝𧗟𨑩运 𨑬䢹𨚓邮𨚕𨚔𨚑𨚗𨸰䧁䧂阸黾㐜𠈱㑞侼㑙㑜𠈶㑟俩侽俢兘𠗉𠗊㓎𠜘𠜒𠜙𠜐𠜖勆𠡟勈𠣟𠤗匨𠤼匩𠧪𠧩𠨜𠩘𠩤𠫳㕟𠲗㖅𠱚𠱙㖆𠲎垴𡊼垩㚇𡘍𡗼𡘌𡜇𡜊㛊𡜂㛃𡜦𡜈𡜝㛂孨𡥎㝁𡧭𡧮𡧯㞀㞁𡱐𡱌㞓㞒𡱏㟅𡷔 𡶰",
   "㡆㡁㡅㡂㠿𢂥𢈉㢂㢁㡿㢥弫㢳㢵𢏳𢏗徍㣚𢓜㣛㤍怘㤎𢘋㤞㤥㤦㤜㤡恗恈㤧㤚𢘺𢘍𢘑怸𢘠𢘁㤤𢘷悔恱𢦪㧁㧡𢫧𢫨挒㧫𢫵㧢㧗㧩𢬵𢫦挊𢫸挣𢫱㪄𢼔𢼕𢼉㪵㪼㫜㫞㫟𣅻昪𣅾𣍦𣍧𣐊㭔柠枾㭓㰤㰥欩㰨㰧𣢜𣥢𣧡𣧞𣧟𣧩㲋𣳤𣳷㳜",
   "浃𣳪𣳶𣴒海炦㶲烀𤇙爯𤕟㸛𤕳㸲牱𤘿𤝸㹫𤝽㹬㹭𤤒㺹㺺㼉㼊𤬯瓪㼛𤬰𤯛甠㽘𤰩㽚甾𤵀㽷𤴽𤴾㽹疩𤴸皅𤽈㿫𤿐㿽㿼眆䀕䀘盶䀖䀗䀙眀䀛𥄎𥄉眂𥄇䂇𥍟𥍠䂜𥐪䂚𥐩䃿䃾𥙍䄱䄮䄰䄲𥝬 䄯𥝧䆕䆖𥤹𥤴𥩙䇅䉺𦈣䍂𦊂䍔𦊃𦊨𦍕",
   "𦏹𦏸𦏼𦏺耉者䎟䎠䎢䏠𦙴䏡𦙫𦙱䏟𦙶𦨎䑢䑡𦨐𦨏䒧𦬸𦬹𦬺苚𦬷𦬾茊䖉𧆜𧈪𧈺𧈫𧈨𧖪𧘏䘝𧘐𧟦䜪𧴥𧺎䟓䡂䡃𨒋䢑𨒌𨒚䢐䢿𨚳䢼𨚲䣀䧇䧅陕𨹄陒丵𠅘𠊧倴倁𠉣倊㑦𠉪𠉥𠉫㒭𠓭𠗙𠜻𠜲剘𠜵𠜱𠜾𠝃𠜶𠡭㔝𠣤㔱匫𠧴㕌𠩩𠩫㖕㖑",
   "㖔𠲿𠳃𠲮㖏哬𠲱唕哾𠲻𠲯𠲰哣唖㙀𡋯㙁𡋭埓𡋰𡖓𡘴𡘫奙娧㛘㛒㛚娨娐㛗娎㝂㝗𡨄𡨃𡨂宯𡨅宺宱𡨀𡭴㝸㞂㞗𡱥𡱣㟉𡷗㟈㟖㟌𡷨㟐𡷛𡷘㟎㟇峼𡸉㟏㟋峲峾𡷥𡷧巸𢀿㡇𢃀㡈𢂹𢂺㢃㢅㢄𢈠𢍏弬㢸㢼𢒑𢒐𢓮𢓳𢓬𢓱𢓫𢓲𢓴𢓭𢙁𢙈",
   "𢙅㤱㤴㤶悂𢙿𢚋㤣𢘻𢙎㤺悑悏𢙼㦴㦵㧭㧬㧘𢫰𢬶𢬿𢭃𢬱𢬴𢭆㧶㧧𢬯𢻃㩼㩻𢼶㪈敇敌𢼡敏斊𣁳㪾𣃦㫧㫥㫮柡桊𣐿㭙㭞𣑫㭚栿㭡㭘㭛枽𣑱㭟梅㰪㰭𣢰㰣㰫㰬𣧳㱾殺㲓㲙𣭡𣭟㲳㳧㳪𣴨𣴞𣴩流𣳫𣵦㶴𤇶烉㸗𤕠𤕷𤖻㸡𤖼㸸㸷㹴",
   "㹳㹵𤞢𤞲𤞞㹶㹸𤤺𤤸玺㼌㼠㼞𤱍㽛𤱞㽜𤴗㾃痆㾀㾁㽾㾈㾅㾉㽿㾎𤵤𤵧㾄疷皌𤽙皍𤿚㿮㿭㿾𥁑㿿𥁕𥄻𥄴䀣𥄷眗𥄱眜䀟𥄿𥅙眔𥍡䂏䂐𥑘𥑢𥑐䂠𥑑䂦䂟𥑆䂧䂡𥘭䄂䄶𥥈𥥑𥥊𥥏𥥐𥥉𥩣䇈𥩦𥩠䇘笌䇝䇜𥫱䇗𥬇䇚䊺𥾛𥾣𥾝䊾䋂䊻",
   "䋀𥾩𥾧𥾤紣𥾺𢇁𦈦䍃䍕𦊔𦊓䍗䍨羘羐𦐇𦐍𦐂𦐌𦐉𦐈𦐓䎡𦓒耺𦔾𦔼𦙧𦚞䏪𦚭䏧𦛙𦙂𦚣𦚠䏨䏩𦙼𦤄䑔𦥘𦥠𦧉𦧈舦䑥𦨜𦨚䒊𦭴䒰𦭮𦭯𦭹䒼茮𦭷荕茚䒸茽𦭼䒲𦭰茰䒽𦭺𦮂䖊虑䖡𧉄䖢𧉃蚈𧉅䘕𧘥𧘟䘠䙳𧟨覎覍𧠉𧢷𧢹𧥤𧥣訉訔䚱",
   "𧥢𧥥䜫𧮬䝅𧴪䞗䞘𧺖䟕𧿂軔䢓䢖逇䢔𨒪𨒰䣇䣅𨛔𨛍𨛖䣄𨟰镹閄䧎䧊䧌陗䧉隺 𩵋𠅢㑮𠊷偧𠊬𠊫㑱𠋁㒻㓓𠗨𠝩𠝝𠝟㓳㓭㓵𠝤𠝢㓱㓲㓶㔠𠣹㔨𠣮匘匬卙𠦫𠦬𠦪卨卾𠪆𠩺厡𠴨㖡啛㖪㖩𠴱㖵㖥㖨啂㖧啇𠴭啓唽𠴫𠴲啠埫𡌩𡌦𡍓",
   "㙍𡌳𡌴𡖝㚜奟𡙁㛪㛥𡞑𡝩孯𡨢㝞𡨴寃𡬮㞆㞄𡯴屚𡸨㟙𡸜㟞𡸑𡸤𡸕㟛𡸖𡹔𡸣𡿿㠱𢃏𢃐㡋𢃎㡉㡊㡌𢇇𢉜㢊𢈶㢉㢋𢉃㢻徢徝㣤𢔪𢔁徣𢔋𢔏㤻㤮㤾㥆㥓𢛟㥄𢛒㤿㥂㥏𢛍㥒㥊惂𢛛㥚悥㥉𢛏戜𢧀戝㨃𢮁𢮂𢮊𢮨𢮌掕掚㨁㨆㧻㧹𢮎㨅",
   "㧺𢮋掦𢮖㧾𢯌㩽㪌𢽏𢽊敐㪎𢽋𢼽敒𢽄𢽉𣂞𣃳旈𣃵㫰㫲𣆳晘㫱㫦𣇥𣆶朗梈𣒆㭯㭭㭩𣒶𣒅㭮𣒫㰯㰰㱣𣨍𣪋𣪌殸㲀殹㲚㲔㲖㲕㲗𣭲㳴㳾𣶏㴁𣵹㴂𣵷㳹𣶐𣶈𣶀𣶞㳶㳷𣶂𣴴𣶉㳿𣶅𣵾𣵺𣶦渋𣶵𤇴㶿㶼焅𤈩𤈦𤈪㶾㷀𤕾㸻㸹𤙛𤙡𤙠㸼",
   "𤞛猔猄𤟃㹽𤟍㹿㹺㹼猅㹾猕猍㺀㺿㻃𤥔𤥙㻌㼎㼍𤫵㼦㼤㼥㼣㼡㼩𤱩𤱥㾏㾍𤵼㾋㾒𤶀㾐𤽥㿯㿰𤿟𥁠䀁𥁞䀮䀭眮䀨䀩䀬𥆏𥅡𥅚睁䂈𥍧䂒䂑矪𥎻硄䂩䂬䂮䂪䄆䄅䅊䄾䄼䄻𥞛䅂䅁䅃𥞩䅅𥥦䆚䆛䆟䆞𥩲𥩶𥬔䇞䇢䇦𥬏笩䇣笧䇟𥹁",
   "𥹆粝𥹋𥹃䉾䋉䋌𥿆䋑𥿇䋐𥿎䋏䋈𥿉䋍𥿋𥿅䍉䍇䍘䍫䍬䍪𦍩䎀䎂䎄翈䎃𦐞𦒺䎶𦕒𦕑𦕓𦚟𦛛脦䏱𦛣䏶䏳䏰脜𦛗𦛩脨䏵䏴䏷𦛞𦛜𦤼舁䑕𦨢𦨲𦨣䒋䓋䓂𦯔𦯈𦮼䓊䓌𦯍䓇䓉荰𦮾䓆𦱀𦯖䓃莂𦮽莬𦮺䓄𦯀莭莽𦯁𧆦𧆥𧆨䖩蚭䖨䖦𧉟𧉰",
   "𧉪𧉥𧉧𧉯𧊇蛊衑𧘽𧙃䘢𧙀䘦䘤䘥袝䘪䙴𧠘䙹覐䙺𧠙𧣁觘觗䚗𧢼𧣈訮𧥱䚼𧥮䚳𧥸䚿䚷䚾𧥺𧮱𧮯𧮰䜴䝆䝈豙𧲨𧲦䝖䝧𧵈𧵅䝨䞙䞚𧺠𧺤䟘𧿔䟛䟜䟝䟗𧿒𨈢䡉䡊軚𨊷𨋌逳𨓦逘䢚𨓈䣍䣊𨛴䣋𨛭䣏𨙾郱䣌䣪䣭𨟹𨟽䣩𨠇䤚釯䦍䧒𨹸",
   "𨹺𨹹𨾊䧲𩁻𩇕𩇩䨽𩇫䨾䫸䬣髙亴𠅬傠傐㑵傆傄𠋺傊㑶㑳傟傡𠌘傓㒽𠗶凕𠞊𠞉㓹𠝿𠞈㓺𠞃𠞄𠞘𠝣𠞇㔡勤㔩𠣵𠥐㔸㕎𠪇𠪊𠭥𠶷𠷁𠷇㗈㖼𠷅𠷋喐𠷑㖻㗂㗀𠶸𠷊㗊𠷞㗉𠷎㖸圐堗𡍨㙎𡍫塄㙐堫𡍪塅𡍦𡍷𡎖𡍮堲㚊𡙗奥𡙖𡞜𡞞㛼㛹",
   "𡞡㝣𡩂寏𡩆𡨾𡬳㞇㞈𡯺㞚𡲗𡲛𡲪嵖𡹳𡹼㟩𡺆㟪嵔㡐𢃳𢃰㡖㡒㡏㡔㡑𢃬𢊯㢎㢏𢉤𢉨𢍚弽𢔟𢔥㣭㣫徤𢛆𢛖𢛃㥢𢜬㥝𢜮𢝞𢜳㥡㥥㥜𢜭𢝆㥟𢛁𢜺𢧌𢮝𢮃𢯶揬㨖㨊𢯸㨎㨒𢯾𢯳㨑𢯫𢯺㨐𢰇𢯼㨉揺㨕揔𢽲𢽳𢽴㪑㪕㪓㪒㪏𢽟𢽠𣂪𣄴㫶",
   "𣆴㫻𣇰晵㫹𣈍𣇳𣈏朜㭽𣓉㭺㭿𣓅㭸𣓗𣓌棙𣓧㭰㮂𣓁㮄𣓨㰳𣣋㰲㰶𣣈𣥺㱖𣥹𣥾㱧𣨛㱥㱤㱦𣨟𣨙㲁㲂㲃㲞𣮉毱㲝𣮋㴏㴒𣸉𣷾𣸀㴐㴘𣸋㴔㴙渷 𣹊湽溆㷈㷄㷆𤉹㷇㷃𤉬𤊙𠔥𤉢𤔔㸙㸜𤗈𤗗𤘌㹁𤙰㹂㹃𤙱𤟟𤟤㺂𤟧㺁㺔㺄𤦐㻒㼏",
   "㼢𤭌㼧㼪瓺㼨𤭏㽠𤱽𤱾𤱼畲𤲍𤴙㾛㾜𤷀㾓㾔痜㾠㾙𤶶㾡𤶨㿱𤿫𤿧𥁯𥇇䀶𥆟䀷䀿䀼𥇄䀴䀹䀻䀵䀰䀲䀸䀾䀺𥆛𥆗𥇅𥍫𥏎䂶硧𥒱𥒮𥒰䂳䄉祷𥜾𥞵𥞺䅌𥞲𥞴䅓䅍䅑䅏窛𥥷䆢𥦆𥥻䇍𥩾𥬮䇧𥬯䇰𥬷䇩䇬𥬲䇨䇮䈂𥬶𥬹𥬵𥹜䊂䊃䊆𥹻",
   "𥹡𥿮𥿫𥿯𦀠紪絥䍊𦈰䍚罤𦊾䍮𦍧𦍼䍰䍯𦐤䎊䎇䎈𦐩𦓯耠䎷䏽脠𦜍䐅脼䐈䐃䐂䐄㬹䐉䏿𦝤脿𦜕䏼䐁䐊臰臵䑫䑬𦨵𦨶𦨴𦨷𦱇𦰫䓞𦱁𦱃䓛𦱂䓝䓣𦰲䓠䓙䓘䓤𦱄𦱊䓚䓯荓萕莾𦱔𦱮𦱒䓗䖳䖻蛥䖲蛒䖭𧊒䖯蚈蛠𧊿䘖䘨䘣袳𧙁𧙩𧙥",
   "䙵䙾䙼𧠢𧠝𧣒𧣚𧣛䛎䛍䛏詓𧦤𧦞訷詇詜𧦝䛄䛌䛈䛇𧦭𧦦𧦧𧮳𧯠𧰵𧰷䝚䝪𧵊䝫䝭䝯𧹞䞞𧻀䞤䞣䟤䟨䟩䟠䟣𧿹䟪䟡䟭䠴䠵䡑軰𨓰䢝𨓳𨔛𨓲𨓻𨜜𨜓䣐𨜏䣮𨠖𨠑𨠒䣲𨠎鈝䦈𨱧𨳲𨳚䦏𨳜䧘𨾔𨾛𨾒𨾚𩂈𩂆䨿𩇯䩒靫𩉞䩐𩑘䪱𩑖𩑔䫹",
   "𩖛𩚖𩚤䬦䬨𩚚𩨒㒀僀㒁𠍫㑾㑿𠌷𠌼僧𠓷㒾𠕦㓖𠞩𠞮𠞭𠟈𠞥𠞰𠢕勥𠤥㔴𠪙厯𠭴𠭰𠭯𠹁𠹔㗕㗘𠹀𠸸㗔嗘㗙𠹒𠸺𠹗嗂𠹙圑塧𡎴𡏀㙝塃㙞㙙𡍵㙚㚠𡙠𡙇㜅𡟰㜇𡟯㜎㜌𡟬𡦃㝅𡦄𡦏㝤𡩡㝥𡩩寝㝦𡩢㞉㟬㟱嵰嵪㟰㟸嵴嵟𡺮嵡嵳𡺲㟲",
   "㟴𢄋㡘𢄐𢄍㡚㡙㡗㡛幐𢉿𢊁㢦㣂㣁弿𢐋𢕎㣯徰𢟪𢝅㥨愵愭㥳㥮㥴愂㥦𢜨𢝝𢧜㦹戦𢧔㨌𢱤𢱨㨠𢱢㨝𢱡㨜𢱦㨡㨚㨙𢯲𢱩𢱧㩾𢾚𢾛𢾅𢾜㪝𢾤㪞㪜敮𢾙𢾆𢾐𣂁𣂮斱旔㫍𣄸㬋㬊暅𣔻㮏楲㮕㮐㮑𣕌椺㮹𣕇𣔵㮗㮞𣔳㮋𣖂𣕀㰻㰺㰼㰽",
   "㰹㰾㱫㱬𣨶𣬎㲢㲡㲟𣮭𣮪𣸗㴭𣹧㴶㴫𣹲㴷㴳𣹡𣺰溭㴥㴯㴬𣹮𣹤㴲𣺌𣹦溕𣹫𣹟𣹴𣹥𤊻𤊾㷕𤊹㷔㷖𤋯㷑牃𤗚㹆犏𤚐𤟩㺌㺊㺈𤠑𤠍𤟭𤠡㻝𤦁𤦱𤬁㼭𤭞𤭢㼮㼬㼫㼰𤭛㽎𤲖𤲓㽤㽡𤲒畵𢆟㽰㾦㾤𤷄𤷇𤷃㾨㾢𤷈㾧痬㾥𤷊㾩𤷅𤷏𤷜𤽼",
   "𥀁䀽𥇓𥇜䁄䁅䁆𥇔睗𥇌䁇䁈䁂𥇖𥇛䁁𥇕𥏙䂔𥏝𥏜𥏠𥓌䃀䂸䃁䃂䂻䂽䂿䂹䂷𥓒䃇𥓓䄌䄋祻䄐𥚍䅝稡䅚䅘䅖𥟘䅔稖𥞼䆨䆧䇏䇐𥪊竨𥪋𥪍䇑䇫𥭓䇻筪𥭙䇽䇸䇷䈀𥭖𥭗䇶筟𥹳𦀛䋟𦀡𦀖𦀘䋢䋤𦁄綂𦀦䋣𦈶䍙䍱䎎䎌𦐺䎤𦓴聕䐔𦝢",
   "𦝛𦝪䐑𦝨䐛䐒䐎䐕腨䐐𦞁䐗艆艃䑰䓭𦳧䓮𦳦𦳑𦴑蒁𦳐𦳙𦴊䓴𦳚𦳝𦳈𦳢𦳩𦳋葼𦳌𦳁葪𦳞蒈䓲䓸䓳𦵑𦴒䓺𦳠𦴫虜𧋘𧋑蜐𧋒𧋍蜟䖶䖷𧌽蜏𧋊䖺𧋋䖼𧋗𧗴䘻裓䘯𧚇𧚋𧚃䘷䚙𧧅𧧒𧧆𧧓䛙䛘䛗𧧰𧧍𧧌𧧜𧧖䜶𧯦𧱁𧰿貇𧳅𧳀𧳆𧲾𧲿賆",
   "䝰𧵣𧻓𧻚𧻕䞥䞦䞩䟮䡔𨋮䡗𨋼𨐔䢡𨔣𨔢𨔰𨚵䣓𨜸䣔𨜿䣗郌酭酰䣷䣶䣹䣸鉘鉂鉨鉩𨥨𨥧鉃𨥥鉇䦊𨱵𨳷𨳳𨳶䦔𨴀䦓𨳿𨳵閝䧝䧜䧷雏𩂒𩈆䩂𩈇𩉫䩔𩉬䩕𩎓䪏𩎔韴䪴䪳𩑢𩑣頉𩑟𩑤𩑛𩑙䫻䫽𩖤𩖬颫䫼𩚵䬬䬯𩚮䬫𩛅䬳䬴飻𩠻骬骮",
   "骪䯨𩪿𩰫𩲄𩲀𩵍𩵏魜𩵌𩾒䵝僒㒅㒈𠎮𠍹㒎㒄𠍱僟𠎳㒃𠌬𠍷𠔯𠟃㔂𠟍㔆㔅𠟉㓾㔁㔀𠟎𠢥𠢠𠣾𠥙𠪚㗧嘙𠻤𠻗𠻜㗦𠻧㗭㗢㗫𠻥㗨㗬嘊㘤墚𡐔㙢𡏱㙡㙠㙤㚋𡖶𡙮𡙬𡚁𡡂㜙㜖㜘㜢𡠚㜝㜗㜞𡠧𡠥𡠗𡠜𡠽𡠠㝩㝪𡪁㝬㝺㞊𡰉𡳆𡳄㞜𡳅",
   "㟽㟹𡻯㟿𡻟𡻞𡻮𡻵𡻬㟼𡻝嶅㟻㠂㡟幖㡞㡝㡜𢄢幑㢒𢊗𢊕㢔㢕㣑𢒩㣱𢕓徱𢕖𢕕㥷㥯𢟣𢟢㦇㥽㥼㥾㦅㦋㦆㦀 𢞩㥸憎𢠳𢠊㦺𢩙㨳𢲼㨭𢳄𢳇𢳆㨷摚摣𢲸𢳚㨮𢲷𢳀㨽𢳍㪠𢾼𢾫㪣𣂆暛𣉚暣㬎暞𣍃㮶𣖬㮫㮭㮦𣖾榸㮪榺㮱𣖫㮨㮯㮰",
   "㮧㮲㮝㮥㮵𡬾槇槗𣣹㱁𣣳𣣷歰𣩅𣩈㱲殝㱯㱱𣩄㲅𣪯𣪱㲤㲥㲦𣯏㲨𣯋𣯍㲣𣱐𣻬𣼚漖漤𣻘㵃𣻐𣻑㴽㵅𣹻𣻒㵄𣻔𣻧𣻟𣻞潅𣻙𣻏𤌍㷣煹 㷟㷤煺㷥𤌸牔㸢㹊𤚩㹉㹄㹋㺇㺉㺒㺑㺐㺎𤠾𤡆𤧭瑱㼒㼐㼑𤭬㼲㼴㼷㼳㼶㼵㽥𤲬畼畻𤷉瘒",
   "㾰𤸒㾯㾪𤷽𤸁𤸑㾫𤺉𤸅𤷾𤸋𤸠𤸄𤾈㿳𥀂㿴𥀃皶盠䀈䁎䁕䁋𥈩𥈻䁍睳𥈆䁒睲䁌睰䁐䁓𥈃䁑𥍸𥍹𥍽䂉𥍿䂕䃌䃈䃎𥔲䃊𥔀碝𥔢䃍𥚩䅜䅧䅩䅥䅢𥠄稧稵穀䆪𥦸𥪛䇒箢䈃䈌𥮒䈉䈆䈅箉𥮏䈋䈈𥮘箥𥮮䊎𥺝粶䋨𦁉𦁐𦁆䋪𦁎綥緃𦁕䋩",
   "䋫𦁤䋰𦈸䍋羫䍳䍵䎒䎑䎓耥䎧䎦䎨䎪𦓾䎩聙䎻䎼䎺䎽䐧膅𦞦䐤䐞䐟䐝䐠䐣䐩䐢𦞜𦞙䐜膎䐨𦞵𦞣𦞠𦞧𦞛𦧟𦧡䑱䑳䑲𦩍䔂𦷳𦵯𦵩䓾蒾𦵫𦵸𦶇䔈𦶅𦶂𦶐䔇䔄𦶀𦵧䔀䓼𦵡䕄𦶓䓱𦷲𦶆蒦䔆𧇍𧇄䗆䗃䗁䗂𧌏䗄䗇𧌍䖿䗒𧍳䗊蛢𧌊蜯",
   "𧌈𧌓䘓𧗸䘰䘾䘹𧚫𧚨䘼䘿𧚥䘴䘽𧛃𧚤䘸𧛔𧚺𧟱覠䚂𧠿䚃𧣪䚛𧧷䛠䛝𧧺𧧵䛞𧧾䛣䛥𧨀誗䛢𧨂𧧻𧨇䛟𧨚䜮𧮸䜷䜸𧯩𧯫𧱐𧱏貋𧶆㕢𧶎䞔䞓䞫䞭𧻰𧻻䟵䟷𨁂䟶䟸𨂅䟻䟹䡘䡚𨌅䡙輏䢅䢤䣘䣙𨝋䣝䣈𨝣䣺䣻鉵䤧銟䤪䤥𨦙䤨𨲁𨴗𨴐",
   "𨴒閦䦕隚𨻺𨻳𨻲𨻵𨻶𨾻𨿂𩂧䨏䨑𩂨𩂣䨐𩂪䨕䨓靗𩇜䩇䩆𩈏䩙䩛𩉹䩞𩉿𩊅䩚䪑䪒䪐䪓𩐛韷䪾𩑷𩑶𩒘䪼䪻䪷䪹𩑺䬁䫾𩖼𩖺䬂𩖶䫿颰𩖴䬀𩛏䬷䬺䭯䭷䭹駆𩡻䯈𩨜𩨡𩨝𩫀䯲𩫿䯱䯰魢𩵖䰴𩾡𩾢𩾦𪉖𪉗䴬䴭𪌁𪏭鼻𪗲僺𠎸㒑𠏀㒔𠎷",
   "𠏡㓄㔊𠟨劅𠢲㕒𠪮㕙㙯𠽾㗲㗴噃𠽶㗱嘼𠾖㙪𡐠𡐡𡐣𡐩𡙷𡡑㜤𡡖㜣𡢈𡡙𡡕㜧𡦗𡦘㝭寭㝮㝯𡪡𡪣尵㞟㠊㠆㠎𡼊㠍㠅𡼽𡼌㠋㠐㠮𢄽𢄹𢊰𢊲𢊮㢖㢗㣄彇㣅𢐠㣒𢕮𢕭𢕪㦁𢠲㦎㦐㦏𢠹㦑㦕㦓𢞣慭𢡿𢠵𢠽𢧴𢧵㨻㩈𢵈𢴨㩆㩇𢴧𢴲𢴬㩌",
   "𢴮㩊㩐㩃𢴣𢴱撝㩉㪦㪥㪤𢿉𣂉㪹𣂻㫎㫏㬓𣎗𣎓𣘨㯆㯅㯊㯙㯁𣘘𣘻槵𣘧𣘤𣘛𣘱㯋𣘦𣚣𣘿𣘢𣘙樃𣙁𣘫橥㱂𣤌歵㱴㱳𣩎𣪹𣫺𣯩𣯨𣯤澊潖㵒𣽟𣽝𣽒㵐𣽴㵋𣽆㵌㵭𣾪澘𣽊𣽙𣽋㵏潨㷰𤍐爴牅㹍㹌𤛐㹏㹎㹐𤛌獜㺖獖𤡤𤡥㺗㺕㺘𤡜𤨕",
   "㻬㻫㼓㼔㼸㼺㼹𤭹㽨㽧𤳅𤲸𤸬㾾㾼𤸷𤸵𤸱㾻𤸯㾺𤸫㾹㾷𤸭𤸪㿁𤾕㿷𥈾䁠𥉇𥉅䁙䁜䁚䁘𥉒䁛𥉰𥉐𥉘𥉑𥈽䁝𥉁𥈌𥈼𥎆𥎃𥎉𥏳䃔䃓碿䃒碽𥔭䃗䃑磤䃕𥛅𥛅䅭䅯稴䅵䅬䅴𥡃䅳𥠷𥡅稶䆬𥧥𥪦𥯛䈐𥯚𥯦箺箼䈏篈䈣篃䈝箶䈎𥯸𥯩䈕",
   "篂䈓𥯨𥯶䈛篅䈢䈦𥯧箽箰䈡䈜䈗𥯕䈚箻𥻓𥻇𥻑䊙𥻃䊗𦂀𦂘䋽𦂄䋶䋾䋵䋿䋷𦂗𦂃𦂁䌁縄𦂌𦉂𦎫䍷𦎣𦎦𦑜𦑩𦑧䎫𦖋𦖨䏀𦟘䐱䐮𣎓𦟜䐬𦟠𦟥䐲䐯䐫䐭䐳𦤘𦤙臱䑗䑜䑻𦩟𦩞䑺𦸂蔢䔓䔞䔗䔠䔪䔑䔕䔏䔘蔸𦸒𦸶䔬蔲蓱蔐𦸣𦸃䔜𦸀",
   "䔩𦹆𦹡䔒蕏䖗𧎄蝲𧍫𧍢𧍖𧍪𧍒𧍕䗔䗐蝼𧍡蝹𧍘𧍷䗓䘔𧛗䙆䙅𧛞䙃𧛟褍䙄䙈𧛑䙇𧛢𧛡𧛝褈䙉䚅𧡋䚄𧡎䚝𧣼䚞䚠𧣺䚜𧣻䚟𧣾䛷䛪𧨱䛯䛩䛳䛰䛫𧨸䛬䛲䛵䛮𧨺𧮻䜺䝋𧱙䝊䝌𧳛𧳟𧳢䝹䝻䝸𧶞𧶡䞵𧼐䞴䞷趞䠉䟾䠈䠇𨁶𨁿𨁽䠆䠄",
   "䠅䟿䠋𨂂𨉗䠻䡝䡜䡟䡞輨𨌮輡䢃𨖋𨖍䢧遦遬𨖐䢨𨛬𨝯𨝫𨝱𨝸郶䣠䣟䣾䣼䣿䣽𨦭䤬鋬銺鋣銽䦝𨴯閴𨽸䩀𩇸𩈙䩟𩊛𩊔𩊗𩊙𩎦𩎤𩎧韑𩒕䫀頣𩒐䫁䫆𩒛𩗄䬄䬅𩗆餋䬾䬽䭀䬿𩛣䭂𩛟𩛝𩛧䮄䮂䭿䮅𩨭𩨬䯌骲䯋䯍𩨴𩨸髛𩬝䯵𩬚𩬛𩬔",
   "髰𩬗𩰡䰠䰡𩲪𩲡䰷䰾魳䰽魮𩵣𩵹𩵠魥𩵢䰼𩵡䰸魪𩵰魭𩵪䰻𩿈䲰𩿅𩾾𩿂䲭䲲䲸鴋𩿇䲯𩾰𩿊䴚鹶䴠䴡䴰麨䴯𪌍𪌇𪎖𪏯䵟䵠𪐞𪐝鼑𪖐𠏫㒊儙㒜𠏮㒚𠏯𠏬𠟺㔌㔋㔍劒𠤄𠿓㗾𠿑𠿺㗿㗻㗼㘉𠿈㘀𠿕噵𠿍𠿒𠿻𡈪𡒈𡑡㙱𡑣𡑢奯𠁗𡣈𡢘",
   "㜫𡫁𡼿𡽁㠔㠑㠒𢅒㡣𢅞㡮㢚𢋇㢛𢍰𢐧㣈𢑱𢒰㣶𢡂𢡃憥㦌㦗㦢憠𢡗𢢝𢶉𢶍𢶋𢶀𢶒𢶊𢷈㩔𢶏𢶓𢶑㪨𢿲𢿞㪩𣃈斴旘曂㬘㬗㬝𣊧𣊡㬱𣚌𣙿㯘㯕𣙻𣚕𣚙㯡𣚎㯔𣛚𣚊𣚜㯣𣙾㱄㱅𣤚𣩕㱶㱵𣩠殨㲈㲪𣯻㲫㲬𣯽㵗澃㵠㵝㵫𣿐㵣㵧𣿅㵞𣿒",
   "𤀑濅燍㷹㷳𤎭𤎤𤎩𤎰𤎝㷶𤖘犜㹑㹓㹒𤢒㺛𤢊㺜𤢍𤢖㻷璙璏璑𤩅𤩋𤬏𤬖㼻𤮊㼾㼽𤳉㽩𤳈𤳊𤹤㿃㿄㿇𤹝𤹣瘹㿆瘮㿈𤺈𤼺𤼹皟皠㿦㿸𥀗𥂓䀇𥂕䁤䁨𥉶瞔䁥瞮𥊀𥉻䁩𥉈𥊨𥊈𥎋𥎊𥎌𥏼䃚䃠磦𥕘䃞𥕑𥕕𥕓䄜䄝䄚𥛜䅻䅺䅼𥡜䅸䅷𥡥",
   "穊䆱𥧮䆲䆰𥧰窼𥧲䈶𥰵䈮𥰢篖𥰠䈴𥰭𥰨𥰦𥰼䈪𥰸䈳䈭䈯䈱䈫䈲𥰪䈵𥰚𥰰𥯣𥰙𥻩𥻧糏𦃖𦃄䌈𦂇䌆𦃇𦃙縘𦃟䍍䍡𦌊𦌁𦎱䍸𦏁䎔䎕𦑶𦔍𦔎䏁䏃聭𦠇䐹𦠉𦠖䐺䐻䐵䐶𦠎䐼膐𦠆𦤞𦥊䑘䑼䑽䒍䒌𦺦𦺑䔻䔿𦺸𦺖䔲䔭𦻅䔯䔹䔮䔺𦼊䔶",
   "䔱䔾䔸蕒䔴𦺲䕁𦺷𦺴𦺉𦺍䔰𦺇𦻂𦺜𦺒䕃𦻊蕐𦺊𧇠䖘𧇦𧇥螠𧎥𧎳螆䗚䗗𧎵𧎯螕𧎰𧏌螌𧎢𧎾𧏆𧎬𧎮䘘衠衠𧜈𧜅䙒褨𧛾䙎褠𧜀䙏䙐𧡤𧡨覨䚆䚇䚉𧡪𧡩𧤍𧤒䚢䚣𧤏䚡𧩧𧩹𧩲𧩦𧩼䛹䛽𧩨𧪅𧩶𧩴𧩱𧩤䜾䜼𧯸䝍𧱬䝎𧳫䞁䞃䞂𧶸䞀䞈",
   "𧼭𧼮𧼨𧼩𧼱䞹𧼯𧼪踺𨂤𨂷𨂿䠑䠍䠐䠓𨉣䠼䡢䡣𨍧𨖾𨗒𨞕𨞜䤃䤆䤂䤁𨡱𨡲䤅𨡯醔錑𨧱錷䤶𨧨䤵鍃鉼䦡䦣𨵉𨵤䦠𨵈䧪隦䧨𨼬𨿡𨿯𩃀䨡䨛𩃗𩃔䩉䩈𩊭鞕䩢䩡䩤䩠䩣𩊮𩊬鞖䩦䪬䪫𩐧𩒮䫃𩒰䫄頥𩓀𩓄䬈䬉䬊䬆䬇䭁𩜇䭅𩛽䭃䭄餦",
   "餴䭇餩𩠛𩠜䭱𩢲𩢴𩢷𩢱𩢳𩢮䮋䯔䯓䯑骺䯒𩨿𩬶䯷䯸𩬱𩬻𩬵𩬺𩬷𩰢𩰶𩰲䰢𩳀䱅䱁鮁䱀鮊𩶅魿䱂𩶉䳁䳅𩿡䲻䲹䲽䳉𪀊鴑𪀉䲿䳇𩿨䳃䴤䴱䴳𪌘䴲䴴䵒䵡黙䵺䶂鼼𪗅儣𠐍𠐌𠐡儬𠘖𠠎㔏劕𠠗㔣㔥𡁈㘆㘈嚈𡁕𡁉𡁌嚋𡁏𡀽㙺㙷𡒊𡒨",
   "𡚊㜮𡣋㜯𡣕𢇔㠛㠓𡽜𡽵㡦𢅡㡥𡚖㣷𢖊𢣐懡懗𢡉𢣏㦜𢷖𢵿㩓𢷒𢷏𣀆𣀉㪺斣㬢曓𣜆𣛱𣜄檋𣛺𣛴㯫㯝𣛹㯯𣚋𣜃㱇㱆𣦢㱸殬㲉𣰌𣰋㵨㵶㵴㵹𤀤㵺㵷瀞㵱𤀥㵲𤏶㷿𤏻㸅𤔲𤗻㹔𤛲𤛳㺞㺟獴𤢜𤩲㻺𤩴㽄㼿㽀𤮆㽂𤮎𤮐㽑𤯍𤯷𤳖𤺄𤺕𤺊",
   "癀㿊𤺗癁㿎㿉𤾠𤾡𥀢𥂦𥂤䀉盨䁬䁮䁰䁭䁫䁱䁲𥊯𥊰𥊽䂌䃤𥕶䃡𥕻𥕹磶䃧礀䃢䄟𥛮𥛱䅾𥢔䆀穙穕𥢑䆹䆷䆸𥨐䆺竴𥪯䇓䈿簄䉅䉁簕䉂䉃䈻䈸𥱻𥱷䈺篵𥲀𥳆䈼𥱼𥲐䈾𥲣𥱽𥲽䊞䊟䊡𥼓䊛䌒𦄑𦅄𦄍䌘䌌𦌔䍢𦎸䍺𦎷𦒃䎮䎯𦔔䎭𦔜",
   "䏄䏇䏆䏅𦗔𦗕臁䑀𦡃𦡂䐿䑁𣎜𦡁𦥎䑿𦪇䒆䒁䒀䒎䕊𦼹䕇𦾏𦼪䕋䕆䕎蕽𦼫薥𦽐䕈𦽮䕅𦼻𦽓𦽟𦼯𦼰𦼸𦽌𧇱䗛䗧䗤𧐇𧐖䗡𧐔䗩𧏻䗥䗠䗣𧏸𧐐𧐝𧏿𧐋𧐄䗪𧏾𧗿褺䙔䙘䙜𧜣䙕䚋䚌䚦䚥𧤪𧪠𧪘𧪜䛿𧪞𧪦𧪵𧪰䜰䝀䝁𧳹𧳵䞆𧷒䞿䞽𧽐",
   "𧽎𧽋𧽒𧽍䞾䠙𨃤䠜𨃚䠛䠗䠘蹑𨃟𨃨䠽䡪䡦𨍰𨍲䡧𨍷䡨䢭䢮𨗦𨞪䣖䤉𨢌醘𨢉䤌䤊𨨲䤻䤺鎄鎁𨩺鍯𨲞𨲠𨵰䦯䦪䦫𨵮𨵦䦱𨵥䦬䧬𨽿𨿠䨁𨿿𩃶𩃷𩃵䨣𩃼䨤䨞𩃹䩊䩥䩪𩋊𩋃𩋆䩩𩎸𩎽䪕𩎼𩐅𩓠𩓩顂𩓟𩓬䫌𩓥𩓞頩䫏𩓰𩓣䬏𩗬䬎䬋䬐",
   "䬍䬌𩗲𩗯𩗩𩛻䭆䭈餷䭉𩜷𩣞䮑䮎𩣚䯘䯖𩩋䯚𩩉䯗𩫕髿䯹𩭒𩭇䯼𩭈𩳌𩳐鮩䱊鮧䱎鮳鮬鮰𩶆𩶧𩶣鮜𩶶𩶭𪀓鴼鴜鴺䳓䳍䳑𪀗𪀢鴲鴴𪁉𪀦鳽𪀼𪀨𪊨黇𪏻䵢𪐲𪓖𪕈䶃鼿𪗆䶒㒟㒠𠐥𠐦𠐤𠐳𠕰㔧𠮐㘋𡂕𡂡𡂒𡂏𡂟𡂖𡂘𡂝𡂠㚍𡚗𡣫㝰𡾇",
   "廫𢐲㦚㦟㦝𢣘𢣻𢤆㦛𢣑懕懲㩠㩤㩩㩣㩧㩢𢷶𢸄𢷾攂𢷿𢷷𣀘㪬𣀔𣃍𣄠𣋞㬦㬣㬥𣝅𣝓㯸𣝋𣝕𣝁㯷㯻㯺𣝜𣝔𣩱𣫐㲰㲯𣱓𤀩𤁾㵾𤁹㵽㶀𤁰𤁪㵿㶆𤂅𤁤瀒𤁸㶁𤐲𤐧𤐯㸤㹘㹗㺠𤢺㻾𤩱𤪌㼕𤬚㽇㽆𤮘𤳤㽫㽬疅癔𤻂㿌𤺺癕𤻈㿋皧皨㿹",
   "𥂹𥂸𥂥𥋢䁸䁺䁵𥋙䁶䁷𥊬𥋝䃪䃮䃭𥖝䃬礏𥜑𥜃䆄䆅䆃𥣮䆼䆽䇔𥲤𥳘𥳝𥳞䉕𥳧䉐䉌䉈𥳔䉓𥳎䉗䉔䉎䉊䉑𥳱𥳓䉉䉋䉣𥳊𥳩䊧䊦䊤𥼚𥽁糨糤糥𦄽𦅀繥繎䌗𦅃䌖𦄿𦄼䍣𦌡𦌠羂𦏆䍻䍼𦏑𦏊𦒎𦒑䎰耭𦗣𦢈䑂𦡰䑄𦦝𦪝𦪑𦪘𦪙䒈䒏䕓",
   "䕛𦾿䕙𦾮𦾱𦿌𧀄藊𧀖𦿍䕔薼𦿠𦿋𦿔𦿉𧇿䖙𧇽𧑗𧑒𧑐𧑅𧑍䗱𧑓䗯𧒂𧑄𧗎𧗏𧗒𧘂𧝏𧝘䙢𧝃䙣𧝒䙠䙡䙟𧝉𧝓𧝍䚍𧢄䚎𧢃𧤲𧫢䜉𧫤𧫓䜅𧫕𧫝䜃䜆𧫬𧫦𧫒𧫺𧫚䜱𧰆𧰄䝏𧱻𧴄𧴂䝦賿䟄𧽠䟃䟁䟅𨄇𨄅𨄌䠡𨅚䠟䠢𨄚䠧䠠𨎊䡭䡬䡫䡯䡰",
   "𨎌𨘉𨢦醦𨢬𨢩䥂𨪋鎶𨪌䥄䥀𨪈𨪉䤿𨪓鎫䦋𨶃𨽏䨥䨨𩄠霡𩈶𩋢䩵䩲𩋮䩯𩋧𩋩䩶䩱鞧𩋟䪗𩏇䫗𩔉䫖𩔁䫘䫜䫛䫔頾䬓䬑䬔𩘅𩘌𩝸𩝝䭑䭐䭓䭔䭒𩝞𩝠𩝧䭭馧𩣴䮕䮙𩣱䮚𩣺䮓䮗𩣸𩣹𩤉𩣽𩣷䯜𩩙䯽𩭠𩭨䯾䰀䰂䰁䰃𩭪𩰔𩰾𩳤䰧䰦䰤",
   "䱌鮼䱐䱕䱓鮷䱒𩷒䱗鮾䱘䳖𪁘𪁐䳔𪁜䳚䳙𨄙鵢䳕䳤䳭䳜䴛麏䴷䴶䵋黋䵦䵶𪓟䵾䵽䵿䶄䶋𪗙䶔㒡㔑𠥦㘐嚩𡃡𡃯𡃨𡈳夓𡣾㜲寴𡫯𡫬𡳬𡾜㠠𡾙𢅰𢅮㢝𢑁懬懯𢤂𢤁㦥𢨛𢸣𢸥𢸤𢸦𢸳𢸯𣂏𣍖㰂㯾㰁櫖㰃㯿𣞙㰄櫛㱊𣫙㶇𤂷㶄𤂶㶅爉",
   "𤑔𤑗𤑺㹙獹𤪎瓆𤪐𤪹㼄㽉㽈𤳯㽭㿒㿓𤻢㿑𤻖𤻘𤻚𤻞㿧䀊矃𥌈𥌄𥌊𥌋𥌂䃰𥖪𥗁礟𥣗𥣙穥𥣞𥣚䆾䆿𥨪竆簺𥴱簶𥴫𥴬𥴩𥴮䉞𥴧𥴨䉛𥵟𥴰𥴤糫䊫𥼺䊬𥼹𥽀𦆀𦆄䌟䌝𦅵𦅶䌜𦅼䌞𦅸𦆛𦅾𦉚䍤𦌬羄𦒜𦡇𦢊䑈䑇𦤧𧁊䕞䕡𧀧藠藳𧀮𧀦𧈈",
   "䗷𧒽𧒖䗴䗸蠞𧒾𧒎𧝴䙤𧞀䚒䚏䚐覴䚓䚨𧤼𧤽䚩𧤺𧥂觹𧬤𧬆譄䜎𧬕䜏𧬂𧬌䜋𧬈𧬊𧬅𧬜䜐䝑𧲂䝐𧲆䝣𧸃𧽻䟇𧽺蹱䠤䠦蹮𨆀蹹𨅘軄䡴䡳䡲𨎪𨎫𨐶𨑊䢱邌𨟖䤎䤑䤐䤏䤒䥉鏉䥏䥍𨬃𨫏䥕𨶟𨶢𩀪𩀯𩅄𩅀䨬䨫𩌑𩌏䩹𩌍𩌇𩌃䩺鞰䪙䪚",
   "𩐵䪮䪯𩔄䫤䫡䫞䫦䫟𩔦䫧䫢䫠𩔞䫥顚𩘎䬘𩘝𩘞𩘟䭖𩞈饆𩞍𩞑𩞀䭮𩡔𩡕䮝䮠䮜𩤥𩤚䮡䮢䮟䯟䯞髃䯪𩮈䰆𩭺䰄鬏𩮀𩴞𩷼𩸥䱟鯴鯺䱜𩸋䱞𩸆𩸄鯝䱙𩷹𩸀䱤䱝䱢𩸂䱥𩸇鯭䱛鯯𪂵䳝𪂇䳟𪂓鵧䳢𪂾𪉦䴧𪋇𪋏麖䴺䴼𪌽䴹𪌼𪍇䴽䴻麳",
   "䵌𪏃䵨黢𪔛䶀䶅𪗉䶕𪗝䶖𪚓龏𠐽㒤㔒嚱㘥𡓦孁㜷𡫷𡾰𡾮 㡨㡧㢞𢖟𢖞𢤰㦪𢥏㦩㦤𢤧𢥑㩱㩯𢹑𢹔𢹖𣀧㪭𣀤櫶㰌櫲㰋𣟬𣟄㰏㱹𤃸𤃶𤃷𤃭㶍㶏𤃴𤃯㶎㸌𤑿𤒢𤑾㺦𤣅㺣㺤㺥疈㽮𤻱𤻲㿺𥀯䁼䁾䁻䁽𥌣𥌩䂍䃴䃳𥜛𥣫䆉𥣪𥨳䇀𥵣䉥",
   "𥶒𥵥䊭䌥𦆠繅𦉞䏉𦢪䑊𦢩艧䒉𧂜䕦䕰𧂒䕭䕩䕧𧂆䕲蘎䕮𧂃䖜䗼䗽䘄䗿䗹䗾䘀𧓎䙦䙩𧞓䚪䚫䜗𧬮𧬧𧬨䜕譞䜒贎𧸘𧸖𧾍䟊𧾎䟉䟋𧾐𧾏𨆁䠩䠨𨆊𨆌𨊍䡀䡵䡶𨎲䢈𨟙醶䥗鐁𨬍䥟𨬓鐝䥘䥛𨬛鐯𨶬䦳𨶳䧯𩅞䨰𩅠𩅨𩅣𩅩𩅧䩁䩋𩌨䩽",
   "𩌮𩌰䩼𩌦𩌱𩍁韠𩏚韛韠𩐋顡𩔴𩔳䫨䫪䫩𩔹𩔻𩕀𩘰䬛𩘲𩘷䭕饊䭙䭘𩞁𩞟𩞧䮤䮣𩥄𩥇𩥈𩤽騳䮧𩥉䯠𩪀𩮠𩮝䰈䰊䰉𩮜𩱇𩴇䱱鰏䱬𩹉鰑𩹄鰃鰁䱮𩻟鰖𩹌 𩹏䳠䳮𪃁䳫𪂹𪃋𪃏𪃄鶓䳪䳯䳧𪃊𪃃𪋐𪍑䵈䵉𪎨𪏇𪏆䵍𪏊𪐂䵕𪑝𪑚䵪䵬𪑙",
   "䵫𪓌𪔜𪗌䶘䶙䶗𪗨𪗬𪗪𪚭𪚰𠑟𠑘𠑗卛𠮓㘖𡄻嚿𡄴𡓲㜹𡫽𡰝㠥巎𢌄𢑈𢥘𢹏㩴𢹮𢹲㪮𣀮𣟼𣟴𣰶𤄎㶒㶔𤄔㶕𤄙㸍𤒦㸥𤫉𤫀𤫌𤬛𤮪𤮨𤼃㿕㿖皬㿨𥀵䁿矒䃵䃶䃷𥗙䄤䆍䆊𥨿𥨽䉬䉦䉪𥶋䉧䉭䉨籒𥵨𥶊𥽘𥽗𦇎𦆼𦇀𦇁𦆿𦆫𦉟䍥𦒦䎚𦔩",
   "䎱䑋䑍䑌䑎𦢸䕳䕵𧃝𧃖𧃒𧃕𧃧𧃘𧓬䘃𧔀𧔇𧓽𧓱𧓿𧞪𧞰𧭈䜞𧭓譳𧭍䜙䜜䜚䜝譶𧭃𧭐䝃䝒𧲌𧸧䞕𧾙䟌𨆱䠫𨆰𨆪𨆬䠪軇䡷𨏈𨏊𨙂𨟠𨣧𨣨𨣦䤓䤔鐴𨭛𨭖䥝𨭚䥠鐾䥢𨲸𨷅䦲䧰𩁈𩅽𩅼𩆁𩆂𩅢䩌𩍅䪂鞼䪁䪛𩏣䪤䫮䫬𩕐䫭𩕏䫰䫯𩘹䬝",
   "𩘺䭠䭞䭝𩟁𩥎𩥮䮱䮫䮬䮭𩥱䮮𩪌𩪉䯢𩫥𩮳𩮶𩮴𩱍鬹𩴓𩹸鰪䱻鰦䱸䱵鰧𩹲䳲䳴䳳鷀鷉𪉵𪋚𪋗䴿䴾䵀䵎䵗䵙䵘䵖𪑩𪑧䵮𪑦𪑯𪑱黬𪓏𪔣䶁䶆𪖥䶏𪗾𪗻𪗽齨䶛䶱䶳𡅭㜺𡬅𡰠㠧𡿈𡿉㡪㦬𣄧㰘𣠞𣤶㱌𤄽㶖𤣗㽊𤮭𤴀䂁𥌺䂃䃹䃸𥜦䆎",
   "䆏䇁𥶷𥶶𥷀䉰𥶛䉱𦇘䌪䌭䍽耲耱𦣀䑏𦢿𦪿䒐𧄠𧃐𧄎䕹𧄝𧄞𧄕𧄔𧔞𧔬䘅𧞹𧞸𧞶𧢞𧢜𧥍觽𧭮𧭠䜡𧭤𧭢𦇥䜲𧾣䟍䟏𨏒𨏕邎䤖䤕䦵䨈𩁕䨲𩆓䨳䨴䨼𩍖韂𩏩䪜𩑅䫴䫲𩙼䭢𩟓䭡䭤䮵驋䮴𩦎𩪗䯣𩪛𩪙鬜䰎𩯏鬛𩱙䰬䰫𩴠𩴣𩴪䲅䲁䱾䲃",
   "䲀𩺰鱂𪄯鷔䳻䳷𪄲𪅃𪄿𪄹䳸𪄰𪋝𪏚𪏛䵚𪒄𪑿𪑲𪒀𪓮䵸𪔪𪔢𪕱𪗍䶝䶜𪘏𪘘𠑪㒩㒿囐囏𡬌巚𢖦㩷㩶𣀷㪻曪𣫢㶛𤒼㸏㹛𤫕㽌㽯㿙𤼒䂂𥍋𥍁𥎡𥗬䉴䉲𥷔𥷘𥷙䉳𥷚𥽬𥽭䊱䌮𦇧𦇫𦇬𦉢䍎𦔫𦘍𦣍𦫃𧄿𧄼𧄾𧄽𧄺𧄸𧕄𧕅䘋𧕈𧕐䙬讉𧭸𧭹",
   "䞋𧸾䟐䠭𨙔䣤䥱𨮹鑘䥯𩁟䪇䪥𩕲𩕵䬞䭥䮹䮷䮸䯤𩪣𩪥𩯜𩯝𩱚䲌䲉䲊𩻛𩻜䲋𪆫𪆄𪅶䴁䳾鷧䴃䴆𪆃鷪鷱𪉿䴝䵃𪍳𪎭𪎰䵏𪐏𪐌䵛䵰𪕹䶈𪕷𪕺䶉齄𪘲𪘧𪘪𪘬齭𪘨𪘩𪘸𠠯𡅻𡬍巙𡿖𡿕𢺡𣡌㶞㶟㺧㽋㿛㿚𤿀矖䂎䉶𥷴䌰䌯𦇰䍦𦌿䕾𧕝",
   "𧕲𧕢蠺𧕦襵䙯𧮈䟑䠯𨇨𨇤䢲䤘䤗𨣿䥶𩆯𩆮䩏䪉𩏲𩑈𩖁𩕾䫵䬟𩙒𩟯驝䯥𩪭𩯦䰐𩯭䰏𩯩𩱡𩱠𩴳䰯䰰鱤𩼋𩼈䲓䲔𩼇䴇䴉䴈𪇊䴋𪇆鸊𪊄𪋫𪍽䵐䵱𪒛𪒢𪒡𪒠𪒜䵻䵼𪖀齳𪙀䶡𪘹𪘼䶠䶢𠣊㘛𡆉㚂𣀼𣥀𤅣𤅩㿩𥍓䂄矡𥤗𥤚𥸀䊳䌴䌳䖀𧕯",
   "𧢫䚭𧮑䝄䝕𧾱䟒𨇯𨷱𨷲𩆷𩆵䪊𩖆𩙚䭧𩧆𩧋䯦𩪲䰓𩯳鬭𩼧䲗鸌𪇕𪇘䴌𪇬𪊇𪋲䵆䵜䵴䵲𪒭𪒰𪓽鼟𪖇𪙊䶤䶣𪙎𪙉𪙑𪙍䶴𠑲㔶𡬖𣡭𣥁㲲𤅱𤅴㼖籰䉷𥽼䕿𧆊𧥖䡽鑹𨯺靊䪌𩙛䭨䮾䰕𪇵𪇰𪋳𪍿𪐓䵵䶥𡬙𢦅𢺰𤅷𥗿䉸䌵纝䖂𧆇䖃𧆋䙱𧮞",
   "䡾䪎𩖏饠䭩𩠹𩧔𩫱𩰂𩱫𩵀䲚䲛𪈐𪒾𪒹䶐𪙤龞𤫩𧆐䖆䖅𧈜䘎𧖒𧢮𧮣䤙𩇉䯀𩧘𩵄𪈤黸鼺齽𪙰𪛓䀍䰖𪓃䶩䶪䂅𥸡𦫊𧖜𩱳𪎆𪗁𩰉龖𪛕䯂䰱䴑䶫䲜𩇔"]

end HiveDump.Plane
