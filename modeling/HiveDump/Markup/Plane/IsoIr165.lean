import HiveDump.Markup.Plane.Basic

/-!
# ISO-IR-165

What the set of Chinese telegraphy and teletex adds to GB 2312, in rows of 94 places. Rows that hold
nothing else are empty; a place that holds nothing else is a blank.
-/

namespace HiveDump.Plane

/-- Supplementary ideographs and signs of dates and hours. -/
def isoIr165 : Plane := .ofRows
  ["                                                                        ¢£", "",
   "                                                                      ɡ", "", "", "", "",
   "                          ɑḿńň", "",
   "   ¥                                                                                         ‾",
   "",
   "厾亸  僇鄘沘泜       阘 葓糵    啴     馌   纻绤绹骙 扅  玚    杧檵  辀辒赟鬶    飐 袯襕 铚镚镠鸤鹀鹐鹝鹠 筜翙          甦並讬脩傑働効觔啗铇",
   "钖钘铏铓铔铦锳锜锠锧锽镃镮镴鲀鲄鲊鲓鲖鲗鲘鲙鲿鳀鳁鳒鳛鳠鳣     饤饦饸饹饻饾馂馃馎       勳沖浄減湧 濬悮廈迺坿喆蒞 尅帋崑崙巖妳 骔斏炞畑 椝樑梿昇暎晳 癒瞋盪颕螀蠭箇籐躭镵",
   "厐 伕伡 侢傤  凃冨贠垇  埫 塚 墕 弌弍弎屲 徬彨彟娒    珪珮琷琕  桬  狢晧赒觃觍   脿 飖 烱   涭溁溵 澛 祎 硙 磜礃稖穞痠竜癶颒  籝鲝粬    缞踡 靔鼌铻",
   "㋀㋁㋂㋃㋄㋅㋆㋇㋈㋉㋊㋋㏠㏡㏢㏣㏤㏥㏦㏧㏨㏩㏪㏫㏬㏭㏮㏯㏰㏱㏲㏳㏴㏵㏶㏷㏸㏹㏺㏻㏼㏽㏾㍘㍙㍚㍛㍜㍝㍞㍟㍠㍡㍢㍣㍤㍥㍦㍧㍨㍩㍪㍫㍬㍭㍮㍯㍰〷邨陞塂堃氾洩滧蔴蓆 崅缐绬犇 舘  痳鬥覀粦亅啰釆",
   "", "", "", "", "", "", "", "", "", "", "", "", "", "", "", "", "", "", "", "", "", "", "", "",
   "", "", "", "", "", "", "", "", "", "", "", "", "", "", "", "", "", "", "", "", "", "", "", "",
   "", "", "", "", "", "", "", "", "", "", "", "", "", "", "", "", "", "", "", "", "", "", "", "",
   "", "",
   "     黡     伋伣伃 佺 俫 倴    冮夐毚刬 侴 劻  勚 叆叇 坬垱  垾    堉堼塃塅塆   墄壸   奭  唝 啯    圐圙       岞峃 峣峧 崄    嵚嶅",
   "  巉      庼 闬闿訚阇阓阛  屝   媖婳 媭    驲骃骉骍骎骕骦 玙 玱玥  珰   琎    琯   瑸  璟 璘 韨         桪梼棻 梱棁      椫",
   "    槅槚槜樋    狝 猔       敩 旸  昽 晞 暍 赑赗      拤拃挜挦 揾  擭  腘 飏飔飗     焜      惇         沨 沵浉洸   浐 浕 涢浥浛",
   "  溚 湲 溇     滪潖潵潟澴     祃祇 祐       砠硁硚硵碶 礳詟  眬瞆 瞭        秾   鸧鸮鸰鸴鹍鹒鹓鹔鹖鹙鹡鹢鹥鹯鹴疢瘄    窎     颋颎颙颣蚃  蟏",
   "      筿箓篯  簕   袆  裈      茓  荝  茝   萚        蕰    藠翚纮纴纼绖缊孃赪剅 豮豭        郃   鄌 酂辵   讱讻诇诪谉谞  猆龁龂 钑"]

end HiveDump.Plane
