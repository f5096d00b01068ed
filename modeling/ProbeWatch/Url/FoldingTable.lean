/-!
# Foldings

A table of the characters beyond ASCII that stand for other text in a host name, where neighbours
stand for unrelated texts, as of Unicode 17.
-/

namespace ProbeWatch.Url

/-- The blocks of characters that stand for unrelated texts: the first and the last character of a
block, and what its characters stand for, divided by blanks. -/
def foldedBlocks : List (Nat × Nat × String) := [
  (0xAA, 0xAA, "a"), (0xB2, 0xB3, "2 3"), (0xB5, 0xB5, "\u03BC"), (0xB9, 0xBA, "1 o"),
  (0xBC, 0xBE, "1\u20444 1\u20442 3\u20444"), (0x132, 0x133, "ij ij"),
  (0x13F, 0x140, "l\u00B7 l\u00B7"), (0x149, 0x149, "\u02BCn"), (0x17F, 0x17F, "s"),
  (0x1C4, 0x1CC, "d\u017E d\u017E d\u017E lj lj lj nj nj nj"), (0x1F1, 0x1F3, "dz dz dz"),
  (0x2B0, 0x2B8, "h \u0266 j r \u0279 \u027B \u0281 w y"), (0x2E0, 0x2E4, "\u0263 l s x \u0295"),
  (0x340, 0x341, "\u0300 \u0301"), (0x343, 0x345, "\u0313 \u0308\u0301 \u03B9"),
  (0x374, 0x374, "\u02B9"), (0x37E, 0x37E, ";"), (0x387, 0x387, "\u00B7"),
  (0x3D0, 0x3D6, "\u03B2 \u03B8 \u03C5 \u03CD \u03CB \u03C6 \u03C0"),
  (0x3F0, 0x3F2, "\u03BA \u03C1 \u03C3"), (0x3F5, 0x3F5, "\u03B5"), (0x3F9, 0x3F9, "\u03C3"),
  (0x558, 0x558, "\u058B"), (0x587, 0x587, "\u0565\u0582"),
  (0x675, 0x678, "\u0627\u0674 \u0648\u0674 \u06C7\u0674 \u064A\u0674"),
  (0x958, 0x95C, "\u0915\u093C \u0916\u093C \u0917\u093C \u091C\u093C \u0921\u093C"),
  (0x95D, 0x95F, "\u0922\u093C \u092B\u093C \u092F\u093C"),
  (0x9DC, 0x9DD, "\u09A1\u09BC \u09A2\u09BC"), (0x9DF, 0x9DF, "\u09AF\u09BC"),
  (0xA33, 0xA33, "\u0A32\u0A3C"), (0xA36, 0xA36, "\u0A38\u0A3C"),
  (0xA59, 0xA5B, "\u0A16\u0A3C \u0A17\u0A3C \u0A1C\u0A3C"), (0xA5E, 0xA5E, "\u0A2B\u0A3C"),
  (0xB5C, 0xB5D, "\u0B21\u0B3C \u0B22\u0B3C"), (0xE33, 0xE33, "\u0E4D\u0E32"),
  (0xEB3, 0xEB3, "\u0ECD\u0EB2"), (0xEDC, 0xEDD, "\u0EAB\u0E99 \u0EAB\u0EA1"),
  (0xF0C, 0xF0C, "\u0F0B"), (0xF43, 0xF43, "\u0F42\u0FB7"), (0xF4D, 0xF4D, "\u0F4C\u0FB7"),
  (0xF52, 0xF52, "\u0F51\u0FB7"), (0xF57, 0xF57, "\u0F56\u0FB7"), (0xF5C, 0xF5C, "\u0F5B\u0FB7"),
  (0xF69, 0xF69, "\u0F40\u0FB5"), (0xF73, 0xF73, "\u0F71\u0F72"),
  (0xF75, 0xF78, "\u0F71\u0F74 \u0FB2\u0F80 \u0FB2\u0F71\u0F80 \u0FB3\u0F80"),
  (0xF79, 0xF79, "\u0FB3\u0F71\u0F80"), (0xF81, 0xF81, "\u0F71\u0F80"),
  (0xF93, 0xF93, "\u0F92\u0FB7"), (0xF9D, 0xF9D, "\u0F9C\u0FB7"), (0xFA2, 0xFA2, "\u0FA1\u0FB7"),
  (0xFA7, 0xFA7, "\u0FA6\u0FB7"), (0xFAC, 0xFAC, "\u0FAB\u0FB7"), (0xFB9, 0xFB9, "\u0F90\u0FB5"),
  (0x10FC, 0x10FC, "\u10DC"),
  (0x1C80, 0x1C88, "\u0432 \u0434 \u043E \u0441 \u0442 \u0442 \u044A \u0463 \uA64B"),
  (0x1D2C, 0x1D2E, "a \u00E6 b"), (0x1D30, 0x1D32, "d e \u01DD"),
  (0x1D3C, 0x1D4D, "o \u0223 p r t u w a \u0250 \u0251 \u1D02 b d e \u0259 \u025B \u025C g"),
  (0x1D4F, 0x1D5D, "k m \u014B o \u0254 \u1D16 \u1D17 p t u \u1D1D \u026F v \u1D25 \u03B2"),
  (0x1D5E, 0x1D6A, "\u03B3 \u03B4 \u03C6 \u03C7 i r u v \u03B2 \u03B3 \u03C1 \u03C6 \u03C7"),
  (0x1D78, 0x1D78, "\u043D"),
  (0x1D9B, 0x1DA5, "\u0252 c \u0255 \u00F0 \u025C f \u025F \u0261 \u0265 \u0268 \u0269"),
  (0x1DA6, 0x1DAD, "\u026A \u1D7B \u029D \u026D \u1D85 \u029F \u0271 \u0270"),
  (0x1DB2, 0x1DBB, "\u0278 \u0282 \u0283 \u01AB \u0289 \u028A \u1D1C \u028B \u028C z"),
  (0x1DBC, 0x1DBF, "\u0290 \u0291 \u0292 \u03B8"), (0x1E9A, 0x1E9B, "a\u02BE \u1E61"),
  (0x1F71, 0x1F71, "\u03AC"), (0x1F73, 0x1F73, "\u03AD"), (0x1F75, 0x1F75, "\u03AE"),
  (0x1F77, 0x1F77, "\u03AF"), (0x1F79, 0x1F79, "\u03CC"), (0x1F7B, 0x1F7B, "\u03CD"),
  (0x1F7D, 0x1F7D, "\u03CE"),
  (0x1F80, 0x1F84, "\u1F00\u03B9 \u1F01\u03B9 \u1F02\u03B9 \u1F03\u03B9 \u1F04\u03B9"),
  (0x1F85, 0x1F89, "\u1F05\u03B9 \u1F06\u03B9 \u1F07\u03B9 \u1F00\u03B9 \u1F01\u03B9"),
  (0x1F8A, 0x1F8E, "\u1F02\u03B9 \u1F03\u03B9 \u1F04\u03B9 \u1F05\u03B9 \u1F06\u03B9"),
  (0x1F8F, 0x1F93, "\u1F07\u03B9 \u1F20\u03B9 \u1F21\u03B9 \u1F22\u03B9 \u1F23\u03B9"),
  (0x1F94, 0x1F98, "\u1F24\u03B9 \u1F25\u03B9 \u1F26\u03B9 \u1F27\u03B9 \u1F20\u03B9"),
  (0x1F99, 0x1F9D, "\u1F21\u03B9 \u1F22\u03B9 \u1F23\u03B9 \u1F24\u03B9 \u1F25\u03B9"),
  (0x1F9E, 0x1FA2, "\u1F26\u03B9 \u1F27\u03B9 \u1F60\u03B9 \u1F61\u03B9 \u1F62\u03B9"),
  (0x1FA3, 0x1FA7, "\u1F63\u03B9 \u1F64\u03B9 \u1F65\u03B9 \u1F66\u03B9 \u1F67\u03B9"),
  (0x1FA8, 0x1FAC, "\u1F60\u03B9 \u1F61\u03B9 \u1F62\u03B9 \u1F63\u03B9 \u1F64\u03B9"),
  (0x1FAD, 0x1FAF, "\u1F65\u03B9 \u1F66\u03B9 \u1F67\u03B9"),
  (0x1FB2, 0x1FB4, "\u1F70\u03B9 \u03B1\u03B9 \u03AC\u03B9"), (0x1FB7, 0x1FB7, "\u1FB6\u03B9"),
  (0x1FBB, 0x1FBC, "\u03AC \u03B1\u03B9"), (0x1FBE, 0x1FBE, "\u03B9"),
  (0x1FC2, 0x1FC4, "\u1F74\u03B9 \u03B7\u03B9 \u03AE\u03B9"), (0x1FC7, 0x1FC7, "\u1FC6\u03B9"),
  (0x1FC9, 0x1FC9, "\u03AD"), (0x1FCB, 0x1FCC, "\u03AE \u03B7\u03B9"), (0x1FD3, 0x1FD3, "\u0390"),
  (0x1FDB, 0x1FDB, "\u03AF"), (0x1FE3, 0x1FE3, "\u03B0"), (0x1FEB, 0x1FEB, "\u03CD"),
  (0x1FEF, 0x1FEF, "`"), (0x1FF2, 0x1FF4, "\u1F7C\u03B9 \u03C9\u03B9 \u03CE\u03B9"),
  (0x1FF7, 0x1FF7, "\u1FF6\u03B9"), (0x1FF9, 0x1FF9, "\u03CC"),
  (0x1FFB, 0x1FFC, "\u03CE \u03C9\u03B9"), (0x2011, 0x2011, "\u2010"),
  (0x2033, 0x2034, "\u2032\u2032 \u2032\u2032\u2032"),
  (0x2036, 0x2037, "\u2035\u2035 \u2035\u2035\u2035"), (0x203C, 0x203C, "!!"),
  (0x2057, 0x2057, "\u2032\u2032\u2032\u2032"), (0x2070, 0x2071, "0 i"),
  (0x207A, 0x207F, "+ \u2212 = ( ) n"), (0x208A, 0x208E, "+ \u2212 = ( )"),
  (0x2090, 0x2095, "a e o x \u0259 h"), (0x209A, 0x209C, "p s t"), (0x20A8, 0x20A8, "rs"),
  (0x2102, 0x2103, "c \u00B0c"), (0x2107, 0x2107, "\u025B"),
  (0x2109, 0x2113, "\u00B0f g h h h h \u0127 i i l l"), (0x2115, 0x2116, "n no"),
  (0x2119, 0x211D, "p q r r r"), (0x2120, 0x2122, "sm tel tm"), (0x2124, 0x2124, "z"),
  (0x2128, 0x2128, "z"), (0x212C, 0x212D, "b c"), (0x212F, 0x2131, "e e f"),
  (0x2133, 0x2134, "m o"), (0x2139, 0x2139, "i"),
  (0x213B, 0x2140, "fax \u03C0 \u03B3 \u03B3 \u03C0 \u2211"), (0x2145, 0x2149, "d d e i j"),
  (0x2150, 0x2156, "1\u20447 1\u20449 1\u204410 1\u20443 2\u20443 1\u20445 2\u20445"),
  (0x2157, 0x215D, "3\u20445 4\u20445 1\u20446 5\u20446 1\u20448 3\u20448 5\u20448"),
  (0x215E, 0x2171, "7\u20448 1\u2044 i ii iii iv v vi vii viii ix x xi xii l c d m i ii"),
  (0x2172, 0x217F, "iii iv v vi vii viii ix x xi xii l c d m"), (0x2189, 0x2189, "0\u20443"),
  (0x222C, 0x222D, "\u222B\u222B \u222B\u222B\u222B"),
  (0x222F, 0x2230, "\u222E\u222E \u222E\u222E\u222E"), (0x2329, 0x232A, "\u3008 \u3009"),
  (0x2469, 0x247C, "10 11 12 13 14 15 16 17 18 19 20 (1) (2) (3) (4) (5) (6) (7) (8) (9)"),
  (0x247D, 0x2487, "(10) (11) (12) (13) (14) (15) (16) (17) (18) (19) (20)"),
  (0x249C, 0x24AC, "(a) (b) (c) (d) (e) (f) (g) (h) (i) (j) (k) (l) (m) (n) (o) (p) (q)"),
  (0x24AD, 0x24B5, "(r) (s) (t) (u) (v) (w) (x) (y) (z)"), (0x24EA, 0x24EA, "0"),
  (0x2A0C, 0x2A0C, "\u222B\u222B\u222B\u222B"), (0x2A75, 0x2A76, "== ==="),
  (0x2ADC, 0x2ADC, "\u2ADD\u0338"), (0x2C7C, 0x2C7D, "j v"), (0x2D6F, 0x2D6F, "\u2D61"),
  (0x2E9F, 0x2E9F, "母"), (0x2EF3, 0x2EF3, "龟"),
  (0x2F00, 0x2F22, "一 丨 丶 丿 乙 亅 二 亠 人 儿 入 八 冂 冖 冫 几 凵 刀 力 勹 匕 匚 匸 十 卜 卩 厂 厶 又 口 囗 土 士 夂 夊"),
  (0x2F23, 0x2F45, "夕 大 女 子 宀 寸 小 尢 尸 屮 山 巛 工 己 巾 干 幺 广 廴 廾 弋 弓 彐 彡 彳 心 戈 戶 手 支 攴 文 斗 斤 方"),
  (0x2F46, 0x2F68, "无 日 曰 月 木 欠 止 歹 殳 毋 比 毛 氏 气 水 火 爪 父 爻 爿 片 牙 牛 犬 玄 玉 瓜 瓦 甘 生 用 田 疋 疒 癶"),
  (0x2F69, 0x2F8B, "白 皮 皿 目 矛 矢 石 示 禸 禾 穴 立 竹 米 糸 缶 网 羊 羽 老 而 耒 耳 聿 肉 臣 自 至 臼 舌 舛 舟 艮 色 艸"),
  (0x2F8C, 0x2FAE, "虍 虫 血 行 衣 襾 見 角 言 谷 豆 豕 豸 貝 赤 走 足 身 車 辛 辰 辵 邑 酉 釆 里 金 長 門 阜 隶 隹 雨 靑 非"),
  (0x2FAF, 0x2FD1, "面 革 韋 韭 音 頁 風 飛 食 首 香 馬 骨 高 髟 鬥 鬯 鬲 鬼 魚 鳥 鹵 鹿 麥 麻 黃 黍 黑 黹 黽 鼎 鼓 鼠 鼻 齊"),
  (0x2FD2, 0x2FD5, "齒 龍 龜 龠"), (0x3002, 0x3002, "."), (0x3036, 0x3036, "\u3012"),
  (0x3038, 0x303A, "十 卄 卅"), (0x309F, 0x309F, "より"), (0x30FF, 0x30FF, "コト"),
  (0x3131, 0x3139, "\u1100 \u1101 \u11AA \u1102 \u11AC \u11AD \u1103 \u1104 \u1105"),
  (0x3140, 0x3144, "\u111A \u1106 \u1107 \u1108 \u1121"),
  (0x3165, 0x316E, "\u1114 \u1115 \u11C7 \u11C8 \u11CC \u11CE \u11D3 \u11D7 \u11D9 \u111C"),
  (0x316F, 0x3177, "\u11DD \u11DF \u111D \u111E \u1120 \u1122 \u1123 \u1127 \u1129"),
  (0x317D, 0x3186, "\u1132 \u1136 \u1140 \u1147 \u114C \u11F1 \u11F2 \u1157 \u1158 \u1159"),
  (0x3187, 0x318E, "\u1184 \u1185 \u1188 \u1191 \u1192 \u1194 \u119E \u11A1"),
  (0x3192, 0x319F, "一 二 三 四 上 中 下 甲 乙 丙 丁 天 地 人"),
  (0x3200, 0x3206, "(\u1100) (\u1102) (\u1103) (\u1105) (\u1106) (\u1107) (\u1109)"),
  (0x3207, 0x320D, "(\u110B) (\u110C) (\u110E) (\u110F) (\u1110) (\u1111) (\u1112)"),
  (0x320E, 0x3214, "(\uAC00) (\uB098) (\uB2E4) (\uB77C) (\uB9C8) (\uBC14) (\uC0AC)"),
  (0x3215, 0x321B, "(\uC544) (\uC790) (\uCC28) (\uCE74) (\uD0C0) (\uD30C) (\uD558)"),
  (0x321C, 0x321E, "(\uC8FC) (\uC624\uC804) (\uC624\uD6C4)"),
  (0x3220, 0x3230, "(一) (二) (三) (四) (五) (六) (七) (八) (九) (十) (月) (火) (水) (木) (金) (土) (日)"),
  (0x3231, 0x3241, "(株) (有) (社) (名) (特) (財) (祝) (労) (代) (呼) (学) (監) (企) (資) (協) (祭) (休)"),
  (0x3242, 0x3247, "(自) (至) 問 幼 文 箏"),
  (0x3250, 0x3262, "pte 21 22 23 24 25 26 27 28 29 30 31 32 33 34 35 \u1100 \u1102 \u1103"),
  (0x3263, 0x3268, "\u1105 \u1106 \u1107 \u1109 \u110B \u110C"),
  (0x326E, 0x3277, "\uAC00 \uB098 \uB2E4 \uB77C \uB9C8 \uBC14 \uC0AC \uC544 \uC790 \uCC28"),
  (0x3278, 0x327E, "\uCE74 \uD0C0 \uD30C \uD558 \uCC38\uACE0 \uC8FC\uC758 \uC6B0"),
  (0x3280, 0x32A2, "一 二 三 四 五 六 七 八 九 十 月 火 水 木 金 土 日 株 有 社 名 特 財 祝 労 秘 男 女 適 優 印 注 項 休 写"),
  (0x32A3, 0x32BE, "正 上 中 下 左 右 医 宗 学 監 企 資 協 夜 36 37 38 39 40 41 42 43 44 45 46 47 48 49"),
  (0x32BF, 0x32D6, "50 1月 2月 3月 4月 5月 6月 7月 8月 9月 10月 11月 12月 hg erg ev ltd ア イ ウ エ オ カ キ"),
  (0x32D7, 0x32E3, "ク ケ コ サ シ ス セ ソ タ チ ツ テ ト"), (0x32EA, 0x32ED, "ヒ フ ヘ ホ"),
  (0x32F3, 0x32F4, "ヤ ユ"),
  (0x32FF, 0x3308, "令和 アパ\u30FCト アルファ アンペア ア\u30FCル イニング インチ ウォン エスク\u30FCド エ\u30FCカ\u30FC"),
  (0x3309, 0x3312, "オンス オ\u30FCム カイリ カラット カロリ\u30FC ガロン ガンマ ギガ ギニ\u30FC キュリ\u30FC"),
  (0x3313, 0x331B, "ギルダ\u30FC キロ キログラム キロメ\u30FCトル キロワット グラム グラムトン クルゼイロ クロ\u30FCネ"),
  (0x331C, 0x3327, "ケ\u30FCス コルナ コ\u30FCポ サイクル サンチ\u30FCム シリング センチ セント ダ\u30FCス デシ ドル トン"),
  (0x3328, 0x3332, "ナノ ノット ハイツ パ\u30FCセント パ\u30FCツ バ\u30FCレル ピアストル ピクル ピコ ビル ファラッド"),
  (0x3333, 0x333D, "フィ\u30FCト ブッシェル フラン ヘクタ\u30FCル ペソ ペニヒ ヘルツ ペンス ペ\u30FCジ ベ\u30FCタ ポイント"),
  (0x333E, 0x334A, "ボルト ホン ポンド ホ\u30FCル ホ\u30FCン マイクロ マイル マッハ マルク マンション ミクロン ミリ ミリバ\u30FCル"),
  (0x334B, 0x3355, "メガ メガトン メ\u30FCトル ヤ\u30FCド ヤ\u30FCル ユアン リットル リラ ルピ\u30FC ル\u30FCブル レム"),
  (0x3356, 0x3368, "レントゲン ワット 0点 1点 2点 3点 4点 5点 6点 7点 8点 9点 10点 11点 12点 13点 14点 15点 16点"),
  (0x3369, 0x337B, "17点 18点 19点 20点 21点 22点 23点 24点 hpa da au bar ov pc dm dm2 dm3 iu 平成"),
  (0x337C, 0x338C, "昭和 大正 明治 株式会社 pa na \u03BCa ma ka kb mb gb cal kcal pf nf \u03BCf"),
  (0x338D, 0x339D, "\u03BCg mg kg hz khz mhz ghz thz \u03BCl ml dl kl fm nm \u03BCm mm cm"),
  (0x339E, 0x33AD, "km mm2 cm2 m2 km2 mm3 cm3 m3 km3 m\u2215s m\u2215s2 pa kpa mpa gpa rad"),
  (0x33AE, 0x33BB, "rad\u2215s rad\u2215s2 ps ns \u03BCs ms pv nv \u03BCv mv kv mv pw nw"),
  (0x33BC, 0x33C1, "\u03BCw mw kw mw k\u03C9 m\u03C9"), (0x33C3, 0x33C6, "bq cc cd c\u2215kg"),
  (0x33C8, 0x33D7, "db gy ha hp in kk km kt lm ln log lx mb mil mol ph"),
  (0x33D9, 0x33EA, "ppm pr sr sv wb v\u2215m a\u2215m 1日 2日 3日 4日 5日 6日 7日 8日 9日 10日 11日"),
  (0x33EB, 0x33FB, "12日 13日 14日 15日 16日 17日 18日 19日 20日 21日 22日 23日 24日 25日 26日 27日 28日"),
  (0x33FC, 0x33FF, "29日 30日 31日 gal"), (0xA69C, 0xA69D, "\u044A \u044C"),
  (0xA770, 0xA770, "\uA76F"), (0xA7F1, 0xA7F4, "s c f q"), (0xA7F8, 0xA7F9, "\u0127 \u0153"),
  (0xAB5C, 0xAB5F, "\uA727 \uAB37 \u026B \uAB52"), (0xAB69, 0xAB69, "\u028D"),
  (0xF900, 0xF922, "豈 更 車 賈 滑 串 句 龜 龜 契 金 喇 奈 懶 癩 羅 蘿 螺 裸 邏 樂 洛 烙 珞 落 酪 駱 亂 卵 欄 爛 蘭 鸞 嵐 濫"),
  (0xF923, 0xF945, "藍 襤 拉 臘 蠟 廊 朗 浪 狼 郎 來 冷 勞 擄 櫓 爐 盧 老 蘆 虜 路 露 魯 鷺 碌 祿 綠 菉 錄 鹿 論 壟 弄 籠 聾"),
  (0xF946, 0xF968, "牢 磊 賂 雷 壘 屢 樓 淚 漏 累 縷 陋 勒 肋 凜 凌 稜 綾 菱 陵 讀 拏 樂 諾 丹 寧 怒 率 異 北 磻 便 復 不 泌"),
  (0xF969, 0xF98B, "數 索 參 塞 省 葉 說 殺 辰 沈 拾 若 掠 略 亮 兩 凉 梁 糧 良 諒 量 勵 呂 女 廬 旅 濾 礪 閭 驪 麗 黎 力 曆"),
  (0xF98C, 0xF9AE, "歷 轢 年 憐 戀 撚 漣 煉 璉 秊 練 聯 輦 蓮 連 鍊 列 劣 咽 烈 裂 說 廉 念 捻 殮 簾 獵 令 囹 寧 嶺 怜 玲 瑩"),
  (0xF9AF, 0xF9D1, "羚 聆 鈴 零 靈 領 例 禮 醴 隸 惡 了 僚 寮 尿 料 樂 燎 療 蓼 遼 龍 暈 阮 劉 杻 柳 流 溜 琉 留 硫 紐 類 六"),
  (0xF9D2, 0xF9F4, "戮 陸 倫 崙 淪 輪 律 慄 栗 率 隆 利 吏 履 易 李 梨 泥 理 痢 罹 裏 裡 里 離 匿 溺 吝 燐 璘 藺 隣 鱗 麟 林"),
  (0xF9F5, 0xFA0D, "淋 臨 立 笠 粒 狀 炙 識 什 茶 刺 切 度 拓 糖 宅 洞 暴 輻 行 降 見 廓 兀 嗀"), (0xFA10, 0xFA10, "塚"),
  (0xFA12, 0xFA12, "晴"), (0xFA15, 0xFA1E, "凞 猪 益 礼 神 祥 福 靖 精 羽"), (0xFA20, 0xFA20, "蘒"),
  (0xFA22, 0xFA22, "諸"), (0xFA25, 0xFA26, "逸 都"),
  (0xFA2A, 0xFA4C, "飯 飼 館 鶴 郞 隷 侮 僧 免 勉 勤 卑 喝 嘆 器 塀 墨 層 屮 悔 慨 憎 懲 敏 既 暑 梅 海 渚 漢 煮 爫 琢 碑 社"),
  (0xFA4D, 0xFA6D, "祉 祈 祐 祖 祝 禍 禎 穀 突 節 練 縉 繁 署 者 臭 艹 艹 著 褐 視 謁 謹 賓 贈 辶 逸 難 響 頻 恵 𤋮 舘"),
  (0xFA70, 0xFA92, "並 况 全 侀 充 冀 勇 勺 喝 啕 喙 嗢 塚 墳 奄 奔 婢 嬨 廒 廙 彩 徭 惘 慎 愈 憎 慠 懲 戴 揄 搜 摒 敖 晴 朗"),
  (0xFA93, 0xFAB5, "望 杖 歹 殺 流 滛 滋 漢 瀞 煮 瞧 爵 犯 猪 瑱 甆 画 瘝 瘟 益 盛 直 睊 着 磌 窱 節 类 絛 練 缾 者 荒 華 蝹"),
  (0xFAB6, 0xFAD8, "襁 覆 視 調 諸 請 謁 諾 諭 謹 變 贈 輸 遲 醙 鉶 陼 難 靖 韛 響 頋 頻 鬒 龜 𢡊 𢡄 𣏕 㮝 䀘 䀹 𥉉 𥳐 𧻓 齃"),
  (0xFAD9, 0xFAD9, "龎"), (0xFB00, 0xFB06, "ff fi fl ffi ffl st st"),
  (0xFB13, 0xFB17, "\u0574\u0576 \u0574\u0565 \u0574\u056B \u057E\u0576 \u0574\u056D"),
  (0xFB1D, 0xFB1D, "\u05D9\u05B4"),
  (0xFB1F, 0xFB27, "\u05F2\u05B7 \u05E2 \u05D0 \u05D3 \u05D4 \u05DB \u05DC \u05DD \u05E8"),
  (0xFB28, 0xFB2C, "\u05EA + \u05E9\u05C1 \u05E9\u05C2 \u05E9\u05BC\u05C1"),
  (0xFB2D, 0xFB31, "\u05E9\u05BC\u05C2 \u05D0\u05B7 \u05D0\u05B8 \u05D0\u05BC \u05D1\u05BC"),
  (0xFB32, 0xFB36, "\u05D2\u05BC \u05D3\u05BC \u05D4\u05BC \u05D5\u05BC \u05D6\u05BC"),
  (0xFB38, 0xFB3C, "\u05D8\u05BC \u05D9\u05BC \u05DA\u05BC \u05DB\u05BC \u05DC\u05BC"),
  (0xFB3E, 0xFB3E, "\u05DE\u05BC"), (0xFB40, 0xFB41, "\u05E0\u05BC \u05E1\u05BC"),
  (0xFB43, 0xFB44, "\u05E3\u05BC \u05E4\u05BC"),
  (0xFB46, 0xFB4A, "\u05E6\u05BC \u05E7\u05BC \u05E8\u05BC \u05E9\u05BC \u05EA\u05BC"),
  (0xFB4B, 0xFB4F, "\u05D5\u05B9 \u05D1\u05BF \u05DB\u05BF \u05E4\u05BF \u05D0\u05DC"),
  (0xFB50, 0xFB59, "\u0671 \u0671 \u067B \u067B \u067B \u067B \u067E \u067E \u067E \u067E"),
  (0xFB5A, 0xFB63, "\u0680 \u0680 \u0680 \u0680 \u067A \u067A \u067A \u067A \u067F \u067F"),
  (0xFB64, 0xFB6D, "\u067F \u067F \u0679 \u0679 \u0679 \u0679 \u06A4 \u06A4 \u06A4 \u06A4"),
  (0xFB6E, 0xFB77, "\u06A6 \u06A6 \u06A6 \u06A6 \u0684 \u0684 \u0684 \u0684 \u0683 \u0683"),
  (0xFB78, 0xFB81, "\u0683 \u0683 \u0686 \u0686 \u0686 \u0686 \u0687 \u0687 \u0687 \u0687"),
  (0xFB82, 0xFB8B, "\u068D \u068D \u068C \u068C \u068E \u068E \u0688 \u0688 \u0698 \u0698"),
  (0xFB8C, 0xFB95, "\u0691 \u0691 \u06A9 \u06A9 \u06A9 \u06A9 \u06AF \u06AF \u06AF \u06AF"),
  (0xFB96, 0xFB9F, "\u06B3 \u06B3 \u06B3 \u06B3 \u06B1 \u06B1 \u06B1 \u06B1 \u06BA \u06BA"),
  (0xFBA0, 0xFBA9, "\u06BB \u06BB \u06BB \u06BB \u06C0 \u06C0 \u06C1 \u06C1 \u06C1 \u06C1"),
  (0xFBAA, 0xFBB1, "\u06BE \u06BE \u06BE \u06BE \u06D2 \u06D2 \u06D3 \u06D3"),
  (0xFBD3, 0xFBDC, "\u06AD \u06AD \u06AD \u06AD \u06C7 \u06C7 \u06C6 \u06C6 \u06C8 \u06C8"),
  (0xFBDD, 0xFBE5, "\u06C7\u0674 \u06CB \u06CB \u06C5 \u06C5 \u06C9 \u06C9 \u06D0 \u06D0"),
  (0xFBE6, 0xFBEC, "\u06D0 \u06D0 \u0649 \u0649 \u0626\u0627 \u0626\u0627 \u0626\u06D5"),
  (0xFBED, 0xFBF1, "\u0626\u06D5 \u0626\u0648 \u0626\u0648 \u0626\u06C7 \u0626\u06C7"),
  (0xFBF2, 0xFBF6, "\u0626\u06C6 \u0626\u06C6 \u0626\u06C8 \u0626\u06C8 \u0626\u06D0"),
  (0xFBF7, 0xFBFB, "\u0626\u06D0 \u0626\u06D0 \u0626\u0649 \u0626\u0649 \u0626\u0649"),
  (0xFBFC, 0xFC02, "\u06CC \u06CC \u06CC \u06CC \u0626\u062C \u0626\u062D \u0626\u0645"),
  (0xFC03, 0xFC07, "\u0626\u0649 \u0626\u064A \u0628\u062C \u0628\u062D \u0628\u062E"),
  (0xFC08, 0xFC0C, "\u0628\u0645 \u0628\u0649 \u0628\u064A \u062A\u062C \u062A\u062D"),
  (0xFC0D, 0xFC11, "\u062A\u062E \u062A\u0645 \u062A\u0649 \u062A\u064A \u062B\u062C"),
  (0xFC12, 0xFC16, "\u062B\u0645 \u062B\u0649 \u062B\u064A \u062C\u062D \u062C\u0645"),
  (0xFC17, 0xFC1B, "\u062D\u062C \u062D\u0645 \u062E\u062C \u062E\u062D \u062E\u0645"),
  (0xFC1C, 0xFC20, "\u0633\u062C \u0633\u062D \u0633\u062E \u0633\u0645 \u0635\u062D"),
  (0xFC21, 0xFC25, "\u0635\u0645 \u0636\u062C \u0636\u062D \u0636\u062E \u0636\u0645"),
  (0xFC26, 0xFC2A, "\u0637\u062D \u0637\u0645 \u0638\u0645 \u0639\u062C \u0639\u0645"),
  (0xFC2B, 0xFC2F, "\u063A\u062C \u063A\u0645 \u0641\u062C \u0641\u062D \u0641\u062E"),
  (0xFC30, 0xFC34, "\u0641\u0645 \u0641\u0649 \u0641\u064A \u0642\u062D \u0642\u0645"),
  (0xFC35, 0xFC39, "\u0642\u0649 \u0642\u064A \u0643\u0627 \u0643\u062C \u0643\u062D"),
  (0xFC3A, 0xFC3E, "\u0643\u062E \u0643\u0644 \u0643\u0645 \u0643\u0649 \u0643\u064A"),
  (0xFC3F, 0xFC43, "\u0644\u062C \u0644\u062D \u0644\u062E \u0644\u0645 \u0644\u0649"),
  (0xFC44, 0xFC48, "\u0644\u064A \u0645\u062C \u0645\u062D \u0645\u062E \u0645\u0645"),
  (0xFC49, 0xFC4D, "\u0645\u0649 \u0645\u064A \u0646\u062C \u0646\u062D \u0646\u062E"),
  (0xFC4E, 0xFC52, "\u0646\u0645 \u0646\u0649 \u0646\u064A \u0647\u062C \u0647\u0645"),
  (0xFC53, 0xFC57, "\u0647\u0649 \u0647\u064A \u064A\u062C \u064A\u062D \u064A\u062E"),
  (0xFC58, 0xFC5C, "\u064A\u0645 \u064A\u0649 \u064A\u064A \u0630\u0670 \u0631\u0670"),
  (0xFC5D, 0xFC5D, "\u0649\u0670"),
  (0xFC64, 0xFC68, "\u0626\u0631 \u0626\u0632 \u0626\u0645 \u0626\u0646 \u0626\u0649"),
  (0xFC69, 0xFC6D, "\u0626\u064A \u0628\u0631 \u0628\u0632 \u0628\u0645 \u0628\u0646"),
  (0xFC6E, 0xFC72, "\u0628\u0649 \u0628\u064A \u062A\u0631 \u062A\u0632 \u062A\u0645"),
  (0xFC73, 0xFC77, "\u062A\u0646 \u062A\u0649 \u062A\u064A \u062B\u0631 \u062B\u0632"),
  (0xFC78, 0xFC7C, "\u062B\u0645 \u062B\u0646 \u062B\u0649 \u062B\u064A \u0641\u0649"),
  (0xFC7D, 0xFC81, "\u0641\u064A \u0642\u0649 \u0642\u064A \u0643\u0627 \u0643\u0644"),
  (0xFC82, 0xFC86, "\u0643\u0645 \u0643\u0649 \u0643\u064A \u0644\u0645 \u0644\u0649"),
  (0xFC87, 0xFC8B, "\u0644\u064A \u0645\u0627 \u0645\u0645 \u0646\u0631 \u0646\u0632"),
  (0xFC8C, 0xFC90, "\u0646\u0645 \u0646\u0646 \u0646\u0649 \u0646\u064A \u0649\u0670"),
  (0xFC91, 0xFC95, "\u064A\u0631 \u064A\u0632 \u064A\u0645 \u064A\u0646 \u064A\u0649"),
  (0xFC96, 0xFC9A, "\u064A\u064A \u0626\u062C \u0626\u062D \u0626\u062E \u0626\u0645"),
  (0xFC9B, 0xFC9F, "\u0626\u0647 \u0628\u062C \u0628\u062D \u0628\u062E \u0628\u0645"),
  (0xFCA0, 0xFCA4, "\u0628\u0647 \u062A\u062C \u062A\u062D \u062A\u062E \u062A\u0645"),
  (0xFCA5, 0xFCA9, "\u062A\u0647 \u062B\u0645 \u062C\u062D \u062C\u0645 \u062D\u062C"),
  (0xFCAA, 0xFCAE, "\u062D\u0645 \u062E\u062C \u062E\u0645 \u0633\u062C \u0633\u062D"),
  (0xFCAF, 0xFCB3, "\u0633\u062E \u0633\u0645 \u0635\u062D \u0635\u062E \u0635\u0645"),
  (0xFCB4, 0xFCB8, "\u0636\u062C \u0636\u062D \u0636\u062E \u0636\u0645 \u0637\u062D"),
  (0xFCB9, 0xFCBD, "\u0638\u0645 \u0639\u062C \u0639\u0645 \u063A\u062C \u063A\u0645"),
  (0xFCBE, 0xFCC2, "\u0641\u062C \u0641\u062D \u0641\u062E \u0641\u0645 \u0642\u062D"),
  (0xFCC3, 0xFCC7, "\u0642\u0645 \u0643\u062C \u0643\u062D \u0643\u062E \u0643\u0644"),
  (0xFCC8, 0xFCCC, "\u0643\u0645 \u0644\u062C \u0644\u062D \u0644\u062E \u0644\u0645"),
  (0xFCCD, 0xFCD1, "\u0644\u0647 \u0645\u062C \u0645\u062D \u0645\u062E \u0645\u0645"),
  (0xFCD2, 0xFCD6, "\u0646\u062C \u0646\u062D \u0646\u062E \u0646\u0645 \u0646\u0647"),
  (0xFCD7, 0xFCDB, "\u0647\u062C \u0647\u0645 \u0647\u0670 \u064A\u062C \u064A\u062D"),
  (0xFCDC, 0xFCE0, "\u064A\u062E \u064A\u0645 \u064A\u0647 \u0626\u0645 \u0626\u0647"),
  (0xFCE1, 0xFCE5, "\u0628\u0645 \u0628\u0647 \u062A\u0645 \u062A\u0647 \u062B\u0645"),
  (0xFCE6, 0xFCEA, "\u062B\u0647 \u0633\u0645 \u0633\u0647 \u0634\u0645 \u0634\u0647"),
  (0xFCEB, 0xFCEF, "\u0643\u0644 \u0643\u0645 \u0644\u0645 \u0646\u0645 \u0646\u0647"),
  (0xFCF0, 0xFCF3, "\u064A\u0645 \u064A\u0647 \u0640\u064E\u0651 \u0640\u064F\u0651"),
  (0xFCF4, 0xFCF8, "\u0640\u0650\u0651 \u0637\u0649 \u0637\u064A \u0639\u0649 \u0639\u064A"),
  (0xFCF9, 0xFCFD, "\u063A\u0649 \u063A\u064A \u0633\u0649 \u0633\u064A \u0634\u0649"),
  (0xFCFE, 0xFD02, "\u0634\u064A \u062D\u0649 \u062D\u064A \u062C\u0649 \u062C\u064A"),
  (0xFD03, 0xFD07, "\u062E\u0649 \u062E\u064A \u0635\u0649 \u0635\u064A \u0636\u0649"),
  (0xFD08, 0xFD0C, "\u0636\u064A \u0634\u062C \u0634\u062D \u0634\u062E \u0634\u0645"),
  (0xFD0D, 0xFD11, "\u0634\u0631 \u0633\u0631 \u0635\u0631 \u0636\u0631 \u0637\u0649"),
  (0xFD12, 0xFD16, "\u0637\u064A \u0639\u0649 \u0639\u064A \u063A\u0649 \u063A\u064A"),
  (0xFD17, 0xFD1B, "\u0633\u0649 \u0633\u064A \u0634\u0649 \u0634\u064A \u062D\u0649"),
  (0xFD1C, 0xFD20, "\u062D\u064A \u062C\u0649 \u062C\u064A \u062E\u0649 \u062E\u064A"),
  (0xFD21, 0xFD25, "\u0635\u0649 \u0635\u064A \u0636\u0649 \u0636\u064A \u0634\u062C"),
  (0xFD26, 0xFD2A, "\u0634\u062D \u0634\u062E \u0634\u0645 \u0634\u0631 \u0633\u0631"),
  (0xFD2B, 0xFD2F, "\u0635\u0631 \u0636\u0631 \u0634\u062C \u0634\u062D \u0634\u062E"),
  (0xFD30, 0xFD34, "\u0634\u0645 \u0633\u0647 \u0634\u0647 \u0637\u0645 \u0633\u062C"),
  (0xFD35, 0xFD39, "\u0633\u062D \u0633\u062E \u0634\u062C \u0634\u062D \u0634\u062E"),
  (0xFD3A, 0xFD3D, "\u0637\u0645 \u0638\u0645 \u0627\u064B \u0627\u064B"),
  (0xFD50, 0xFD52, "\u062A\u062C\u0645 \u062A\u062D\u062C \u062A\u062D\u062C"),
  (0xFD53, 0xFD55, "\u062A\u062D\u0645 \u062A\u062E\u0645 \u062A\u0645\u062C"),
  (0xFD56, 0xFD58, "\u062A\u0645\u062D \u062A\u0645\u062E \u062C\u0645\u062D"),
  (0xFD59, 0xFD5B, "\u062C\u0645\u062D \u062D\u0645\u064A \u062D\u0645\u0649"),
  (0xFD5C, 0xFD5E, "\u0633\u062D\u062C \u0633\u062C\u062D \u0633\u062C\u0649"),
  (0xFD5F, 0xFD61, "\u0633\u0645\u062D \u0633\u0645\u062D \u0633\u0645\u062C"),
  (0xFD62, 0xFD64, "\u0633\u0645\u0645 \u0633\u0645\u0645 \u0635\u062D\u062D"),
  (0xFD65, 0xFD67, "\u0635\u062D\u062D \u0635\u0645\u0645 \u0634\u062D\u0645"),
  (0xFD68, 0xFD6A, "\u0634\u062D\u0645 \u0634\u062C\u064A \u0634\u0645\u062E"),
  (0xFD6B, 0xFD6D, "\u0634\u0645\u062E \u0634\u0645\u0645 \u0634\u0645\u0645"),
  (0xFD6E, 0xFD70, "\u0636\u062D\u0649 \u0636\u062E\u0645 \u0636\u062E\u0645"),
  (0xFD71, 0xFD73, "\u0637\u0645\u062D \u0637\u0645\u062D \u0637\u0645\u0645"),
  (0xFD74, 0xFD76, "\u0637\u0645\u064A \u0639\u062C\u0645 \u0639\u0645\u0645"),
  (0xFD77, 0xFD79, "\u0639\u0645\u0645 \u0639\u0645\u0649 \u063A\u0645\u0645"),
  (0xFD7A, 0xFD7C, "\u063A\u0645\u064A \u063A\u0645\u0649 \u0641\u062E\u0645"),
  (0xFD7D, 0xFD7F, "\u0641\u062E\u0645 \u0642\u0645\u062D \u0642\u0645\u0645"),
  (0xFD80, 0xFD82, "\u0644\u062D\u0645 \u0644\u062D\u064A \u0644\u062D\u0649"),
  (0xFD83, 0xFD85, "\u0644\u062C\u062C \u0644\u062C\u062C \u0644\u062E\u0645"),
  (0xFD86, 0xFD88, "\u0644\u062E\u0645 \u0644\u0645\u062D \u0644\u0645\u062D"),
  (0xFD89, 0xFD8B, "\u0645\u062D\u062C \u0645\u062D\u0645 \u0645\u062D\u064A"),
  (0xFD8C, 0xFD8E, "\u0645\u062C\u062D \u0645\u062C\u0645 \u0645\u062E\u062C"),
  (0xFD8F, 0xFD8F, "\u0645\u062E\u0645"),
  (0xFD92, 0xFD94, "\u0645\u062C\u062E \u0647\u0645\u062C \u0647\u0645\u0645"),
  (0xFD95, 0xFD97, "\u0646\u062D\u0645 \u0646\u062D\u0649 \u0646\u062C\u0645"),
  (0xFD98, 0xFD9A, "\u0646\u062C\u0645 \u0646\u062C\u0649 \u0646\u0645\u064A"),
  (0xFD9B, 0xFD9D, "\u0646\u0645\u0649 \u064A\u0645\u0645 \u064A\u0645\u0645"),
  (0xFD9E, 0xFDA0, "\u0628\u062E\u064A \u062A\u062C\u064A \u062A\u062C\u0649"),
  (0xFDA1, 0xFDA3, "\u062A\u062E\u064A \u062A\u062E\u0649 \u062A\u0645\u064A"),
  (0xFDA4, 0xFDA6, "\u062A\u0645\u0649 \u062C\u0645\u064A \u062C\u062D\u0649"),
  (0xFDA7, 0xFDA9, "\u062C\u0645\u0649 \u0633\u062E\u0649 \u0635\u062D\u064A"),
  (0xFDAA, 0xFDAC, "\u0634\u062D\u064A \u0636\u062D\u064A \u0644\u062C\u064A"),
  (0xFDAD, 0xFDAF, "\u0644\u0645\u064A \u064A\u062D\u064A \u064A\u062C\u064A"),
  (0xFDB0, 0xFDB2, "\u064A\u0645\u064A \u0645\u0645\u064A \u0642\u0645\u064A"),
  (0xFDB3, 0xFDB5, "\u0646\u062D\u064A \u0642\u0645\u062D \u0644\u062D\u0645"),
  (0xFDB6, 0xFDB8, "\u0639\u0645\u064A \u0643\u0645\u064A \u0646\u062C\u062D"),
  (0xFDB9, 0xFDBB, "\u0645\u062E\u064A \u0644\u062C\u0645 \u0643\u0645\u0645"),
  (0xFDBC, 0xFDBE, "\u0644\u062C\u0645 \u0646\u062C\u062D \u062C\u062D\u064A"),
  (0xFDBF, 0xFDC1, "\u062D\u062C\u064A \u0645\u062C\u064A \u0641\u0645\u064A"),
  (0xFDC2, 0xFDC4, "\u0628\u062D\u064A \u0643\u0645\u0645 \u0639\u062C\u0645"),
  (0xFDC5, 0xFDC7, "\u0635\u0645\u0645 \u0633\u062E\u064A \u0646\u062C\u064A"),
  (0xFDF0, 0xFDF2, "\u0635\u0644\u06D2 \u0642\u0644\u06D2 \u0627\u0644\u0644\u0647"),
  (0xFDF3, 0xFDF4, "\u0627\u0643\u0628\u0631 \u0645\u062D\u0645\u062F"),
  (0xFDF5, 0xFDF6, "\u0635\u0644\u0639\u0645 \u0631\u0633\u0648\u0644"),
  (0xFDF7, 0xFDF9, "\u0639\u0644\u064A\u0647 \u0648\u0633\u0644\u0645 \u0635\u0644\u0649"),
  (0xFDFC, 0xFDFC, "\u0631\u06CC\u0627\u0644"), (0xFE10, 0xFE11, ", \u3001"),
  (0xFE14, 0xFE15, "; !"), (0xFE17, 0xFE18, "\u3016 \u3017"),
  (0xFE31, 0xFE3D, "\u2014 \u2013 _ _ ( ) \x7b \x7d \u3014 \u3015 \u3010 \u3011 \u300A"),
  (0xFE3E, 0xFE40, "\u300B \u3008 \u3009"), (0xFE4D, 0xFE51, "_ _ _ , \u3001"),
  (0xFE54, 0xFE54, ";"), (0xFE57, 0xFE5E, "! \u2014 ( ) \x7b \x7d \u3014 \u3015"),
  (0xFE60, 0xFE66, "& * + - < > ="), (0xFE69, 0xFE69, "$"), (0xFE71, 0xFE71, "\u0640\u064B"),
  (0xFE77, 0xFE77, "\u0640\u064E"), (0xFE79, 0xFE79, "\u0640\u064F"),
  (0xFE7B, 0xFE7B, "\u0640\u0650"), (0xFE7D, 0xFE7D, "\u0640\u0651"),
  (0xFE7F, 0xFE87, "\u0640\u0652 \u0621 \u0622 \u0622 \u0623 \u0623 \u0624 \u0624 \u0625"),
  (0xFE88, 0xFE91, "\u0625 \u0626 \u0626 \u0626 \u0626 \u0627 \u0627 \u0628 \u0628 \u0628"),
  (0xFE92, 0xFE9B, "\u0628 \u0629 \u0629 \u062A \u062A \u062A \u062A \u062B \u062B \u062B"),
  (0xFE9C, 0xFEA5, "\u062B \u062C \u062C \u062C \u062C \u062D \u062D \u062D \u062D \u062E"),
  (0xFEA6, 0xFEAF, "\u062E \u062E \u062E \u062F \u062F \u0630 \u0630 \u0631 \u0631 \u0632"),
  (0xFEB0, 0xFEB9, "\u0632 \u0633 \u0633 \u0633 \u0633 \u0634 \u0634 \u0634 \u0634 \u0635"),
  (0xFEBA, 0xFEC3, "\u0635 \u0635 \u0635 \u0636 \u0636 \u0636 \u0636 \u0637 \u0637 \u0637"),
  (0xFEC4, 0xFECD, "\u0637 \u0638 \u0638 \u0638 \u0638 \u0639 \u0639 \u0639 \u0639 \u063A"),
  (0xFECE, 0xFED7, "\u063A \u063A \u063A \u0641 \u0641 \u0641 \u0641 \u0642 \u0642 \u0642"),
  (0xFED8, 0xFEE1, "\u0642 \u0643 \u0643 \u0643 \u0643 \u0644 \u0644 \u0644 \u0644 \u0645"),
  (0xFEE2, 0xFEEB, "\u0645 \u0645 \u0645 \u0646 \u0646 \u0646 \u0646 \u0647 \u0647 \u0647"),
  (0xFEEC, 0xFEF4, "\u0647 \u0648 \u0648 \u0649 \u0649 \u064A \u064A \u064A \u064A"),
  (0xFEF5, 0xFEF9, "\u0644\u0622 \u0644\u0622 \u0644\u0623 \u0644\u0623 \u0644\u0625"),
  (0xFEFA, 0xFEFC, "\u0644\u0625 \u0644\u0627 \u0644\u0627"), (0xFF01, 0xFF02, "! \x22"),
  (0xFF04, 0xFF04, "$"),
  (0xFF5D, 0xFF6F, "\x7d ~ \u2985 \u2986 . \u300C \u300D \u3001 \u30FB ヲ ァ ィ ゥ ェ ォ ャ ュ ョ ッ"),
  (0xFF70, 0xFF84, "\u30FC ア イ ウ エ オ カ キ ク ケ コ サ シ ス セ ソ タ チ ツ テ ト"), (0xFF8B, 0xFF8E, "ヒ フ ヘ ホ"),
  (0xFF94, 0xFF95, "ヤ ユ"), (0xFF9C, 0xFF9F, "ワ ン \u3099 \u309A"),
  (0xFFA1, 0xFFA9, "\u1100 \u1101 \u11AA \u1102 \u11AC \u11AD \u1103 \u1104 \u1105"),
  (0xFFB0, 0xFFB4, "\u111A \u1106 \u1107 \u1108 \u1121"), (0xFFDA, 0xFFDC, "\u1173 \u1174 \u1175"),
  (0xFFE0, 0xFFE2, "\u00A2 \u00A3 \u00AC"), (0xFFE4, 0xFFE6, "\u00A6 \u00A5 \u20A9"),
  (0xFFE8, 0xFFE8, "\u2502"), (0xFFED, 0xFFEE, "\u25A0 \u25CB"),
  (0x10781, 0x10785, "\u02D0 \u02D1 \u00E6 \u0299 \u0253"),
  (0x10787, 0x10790, "\u02A3 \uAB66 \u02A5 \u02A4 \u0256 \u0257 \u1D91 \u0258 \u025E \u02A9"),
  (0x10791, 0x1079A, "\u0264 \u0262 \u0260 \u029B \u0127 \u029C \u0267 \u0284 \u02AA \u02AB"),
  (0x1079B, 0x107A7, "\u026C 𝼄 \uA78E \u026E 𝼅 \u028E 𝼆 \u00F8 \u0276 \u0277 q \u027A 𝼈"),
  (0x107A8, 0x107B0, "\u027D \u027E \u0280 \u02A8 \u02A6 \uAB67 \u02A7 \u0288 \u2C71"),
  (0x107B2, 0x107BA, "\u028F \u02A1 \u02A2 \u0298 \u01C0 \u01C1 \u01C2 𝼊 𝼞"),
  (0x1D15E, 0x1D164, "𝅗𝅥 𝅘𝅥 𝅘𝅥𝅮 𝅘𝅥𝅯 𝅘𝅥𝅰 𝅘𝅥𝅱 𝅘𝅥𝅲"), (0x1D1BB, 0x1D1C0, "𝆹𝅥 𝆺𝅥 𝆹𝅥𝅮 𝆺𝅥𝅮 𝆹𝅥𝅯 𝆺𝅥𝅯"),
  (0x1D49C, 0x1D49C, "a"), (0x1D49E, 0x1D49F, "c d"), (0x1D4A2, 0x1D4A2, "g"),
  (0x1D4A5, 0x1D4A6, "j k"), (0x1D4BB, 0x1D4BB, "f"), (0x1D504, 0x1D505, "a b"),
  (0x1D538, 0x1D539, "a b"), (0x1D546, 0x1D546, "o"), (0x1D6A4, 0x1D6A5, "\u0131 \u0237"),
  (0x1D6B9, 0x1D6B9, "\u03B8"), (0x1D6C1, 0x1D6C1, "\u2207"), (0x1D6D3, 0x1D6D3, "\u03C3"),
  (0x1D6DB, 0x1D6E1, "\u2202 \u03B5 \u03B8 \u03BA \u03C6 \u03C1 \u03C0"),
  (0x1D6F3, 0x1D6F3, "\u03B8"), (0x1D6FB, 0x1D6FB, "\u2207"), (0x1D70D, 0x1D70D, "\u03C3"),
  (0x1D715, 0x1D71B, "\u2202 \u03B5 \u03B8 \u03BA \u03C6 \u03C1 \u03C0"),
  (0x1D72D, 0x1D72D, "\u03B8"), (0x1D735, 0x1D735, "\u2207"), (0x1D747, 0x1D747, "\u03C3"),
  (0x1D74F, 0x1D755, "\u2202 \u03B5 \u03B8 \u03BA \u03C6 \u03C1 \u03C0"),
  (0x1D767, 0x1D767, "\u03B8"), (0x1D76F, 0x1D76F, "\u2207"), (0x1D781, 0x1D781, "\u03C3"),
  (0x1D789, 0x1D78F, "\u2202 \u03B5 \u03B8 \u03BA \u03C6 \u03C1 \u03C0"),
  (0x1D7A1, 0x1D7A1, "\u03B8"), (0x1D7A9, 0x1D7A9, "\u2207"), (0x1D7BB, 0x1D7BB, "\u03C3"),
  (0x1D7C3, 0x1D7CB, "\u2202 \u03B5 \u03B8 \u03BA \u03C6 \u03C1 \u03C0 \u03DD \u03DD"),
  (0x1E039, 0x1E03B, "\u043A \u043B \u043C"),
  (0x1E047, 0x1E050, "\u044B \u044D \u044E \uA689 \u04D9 \u0456 \u0458 \u04E9 \u04AF \u04CF"),
  (0x1E05A, 0x1E05E, "\u043A \u043B \u043E \u043F \u0441"),
  (0x1E065, 0x1E06D, "\u044A \u044B \u0491 \u0456 \u0455 \u045F \u04AB \uA651 \u04B1"),
  (0x1EE00, 0x1EE03, "\u0627 \u0628 \u062C \u062F"),
  (0x1EE05, 0x1EE09, "\u0648 \u0632 \u062D \u0637 \u064A"),
  (0x1EE0E, 0x1EE17, "\u0633 \u0639 \u0641 \u0635 \u0642 \u0631 \u0634 \u062A \u062B \u062E"),
  (0x1EE18, 0x1EE1F, "\u0630 \u0636 \u0638 \u063A \u066E \u06BA \u06A1 \u066F"),
  (0x1EE21, 0x1EE22, "\u0628 \u062C"), (0x1EE24, 0x1EE24, "\u0647"), (0x1EE27, 0x1EE27, "\u062D"),
  (0x1EE29, 0x1EE29, "\u064A"), (0x1EE2E, 0x1EE32, "\u0633 \u0639 \u0641 \u0635 \u0642"),
  (0x1EE34, 0x1EE37, "\u0634 \u062A \u062B \u062E"), (0x1EE39, 0x1EE39, "\u0636"),
  (0x1EE3B, 0x1EE3B, "\u063A"), (0x1EE42, 0x1EE42, "\u062C"), (0x1EE47, 0x1EE47, "\u062D"),
  (0x1EE49, 0x1EE49, "\u064A"), (0x1EE4B, 0x1EE4B, "\u0644"),
  (0x1EE4D, 0x1EE4F, "\u0646 \u0633 \u0639"), (0x1EE51, 0x1EE52, "\u0635 \u0642"),
  (0x1EE54, 0x1EE54, "\u0634"), (0x1EE57, 0x1EE57, "\u062E"), (0x1EE59, 0x1EE59, "\u0636"),
  (0x1EE5B, 0x1EE5B, "\u063A"), (0x1EE5D, 0x1EE5D, "\u06BA"), (0x1EE5F, 0x1EE5F, "\u066F"),
  (0x1EE61, 0x1EE62, "\u0628 \u062C"), (0x1EE64, 0x1EE64, "\u0647"),
  (0x1EE67, 0x1EE6A, "\u062D \u0637 \u064A \u0643"),
  (0x1EE6C, 0x1EE72, "\u0645 \u0646 \u0633 \u0639 \u0641 \u0635 \u0642"),
  (0x1EE74, 0x1EE77, "\u0634 \u062A \u062B \u062E"),
  (0x1EE79, 0x1EE7C, "\u0636 \u0638 \u063A \u066E"), (0x1EE7E, 0x1EE7E, "\u06A1"),
  (0x1EE80, 0x1EE89, "\u0627 \u0628 \u062C \u062F \u0647 \u0648 \u0632 \u062D \u0637 \u064A"),
  (0x1EE8B, 0x1EE94, "\u0644 \u0645 \u0646 \u0633 \u0639 \u0641 \u0635 \u0642 \u0631 \u0634"),
  (0x1EE95, 0x1EE9B, "\u062A \u062B \u062E \u0630 \u0636 \u0638 \u063A"),
  (0x1EEA1, 0x1EEA3, "\u0628 \u062C \u062F"),
  (0x1EEA5, 0x1EEA9, "\u0648 \u0632 \u062D \u0637 \u064A"),
  (0x1EEAB, 0x1EEB4, "\u0644 \u0645 \u0646 \u0633 \u0639 \u0641 \u0635 \u0642 \u0631 \u0634"),
  (0x1EEB5, 0x1EEBB, "\u062A \u062B \u062E \u0630 \u0636 \u0638 \u063A"),
  (0x1F101, 0x1F10A, "0, 1, 2, 3, 4, 5, 6, 7, 8, 9,"),
  (0x1F110, 0x1F120, "(a) (b) (c) (d) (e) (f) (g) (h) (i) (j) (k) (l) (m) (n) (o) (p) (q)"),
  (0x1F121, 0x1F12E, "(r) (s) (t) (u) (v) (w) (x) (y) (z) \u3014s\u3015 c r cd wz"),
  (0x1F14A, 0x1F14F, "hv mv sd ss ppv wc"), (0x1F16A, 0x1F16C, "mc md mr"),
  (0x1F190, 0x1F190, "dj"), (0x1F200, 0x1F202, "ほか ココ サ"),
  (0x1F210, 0x1F232, "手 字 双 デ 二 多 解 天 交 映 無 料 前 後 再 新 初 終 生 販 声 吹 演 投 捕 一 三 遊 左 中 右 指 走 打 禁"),
  (0x1F233, 0x1F23B, "空 合 満 有 月 申 割 営 配"),
  (0x1F240, 0x1F244, "\u3014本\u3015 \u3014三\u3015 \u3014二\u3015 \u3014安\u3015 \u3014点\u3015"),
  (0x1F245, 0x1F248, "\u3014打\u3015 \u3014盗\u3015 \u3014勝\u3015 \u3014敗\u3015"),
  (0x1F250, 0x1F251, "得 可"),
  (0x2F800, 0x2F822, "丽 丸 乁 𠄢 你 侮 侻 倂 偺 備 僧 像 㒞 𠘺 免 兔 兤 具 𠔜 㒹 內 再 𠕋 冗 冤 仌 冬 况 𩇟 凵 刃 㓟 刻 剆 割"),
  (0x2F823, 0x2F845, "剷 㔕 勇 勉 勤 勺 包 匆 北 卉 卑 博 即 卽 卿 卿 卿 𠨬 灰 及 叟 𠭣 叫 叱 吆 咞 吸 呈 周 咢 哶 唐 啓 啣 善"),
  (0x2F846, 0x2F868, "善 喙 喫 喳 嗂 圖 嘆 圗 噑 噴 切 壮 城 埴 堍 型 堲 報 墬 𡓤 売 壷 夆 多 夢 奢 𡚨 𡛪 姬 娛 娧 姘 婦 㛮 㛼"),
  (0x2F869, 0x2F88B, "嬈 嬾 嬾 𡧈 寃 寘 寧 寳 𡬘 寿 将 当 尢 㞁 屠 屮 峀 岍 𡷤 嵃 𡷦 嵮 嵫 嵼 巡 巢 㠯 巽 帨 帽 幩 㡢 𢆃 㡼 庰"),
  (0x2F88C, 0x2F8AE, "庳 庶 廊 𪎒 廾 𢌱 𢌱 舁 弢 弢 㣇 𣊸 𦇚 形 彫 㣣 徚 忍 志 忹 悁 㤺 㤜 悔 𢛔 惇 慈 慌 慎 慌 慺 憎 憲 憤 憯"),
  (0x2F8AF, 0x2F8D1, "懞 懲 懶 成 戛 扝 抱 拔 捐 𢬌 挽 拼 捨 掃 揤 𢯱 搢 揅 掩 㨮 摩 摾 撝 摷 㩬 敏 敬 𣀊 旣 書 晉 㬙 暑 㬈 㫤"),
  (0x2F8D2, 0x2F8F4, "冒 冕 最 暜 肭 䏙 朗 望 朡 杞 杓 𣏃 㭉 柺 枅 桒 梅 𣑭 梎 栟 椔 㮝 楂 榣 槪 檨 𣚣 櫛 㰘 次 𣢧 歔 㱎 歲 殟"),
  (0x2F8F5, 0x2F917, "殺 殻 𣪍 𡴋 𣫺 汎 𣲼 沿 泍 汧 洖 派 海 流 浩 浸 涅 𣴞 洴 港 湮 㴳 滋 滇 𣻑 淹 潮 𣽞 𣾎 濆 瀹 瀞 瀛 㶖 灊"),
  (0x2F918, 0x2F93A, "災 灷 炭 𠔥 煅 𤉣 熜 𤎫 爨 爵 牐 𤘈 犀 犕 𤜵 𤠔 獺 王 㺬 玥 㺸 㺸 瑇 瑜 瑱 璅 瓊 㼛 甤 𤰶 甾 𤲒 異 𢆟 瘐"),
  (0x2F93B, 0x2F95D, "𤾡 𤾸 𥁄 㿼 䀈 直 𥃳 𥃲 𥄙 𥄳 眞 真 真 睊 䀹 瞋 䁆 䂖 𥐝 硎 碌 磌 䃣 𥘦 祖 𥚚 𥛅 福 秫 䄯 穀 穊 穏 𥥼 𥪧"),
  (0x2F95E, 0x2F980, "𥪧 竮 䈂 𥮫 篆 築 䈧 𥲀 糒 䊠 糨 糣 紀 𥾆 絣 䌁 緇 縂 繅 䌴 𦈨 𦉇 䍙 𦋙 罺 𦌾 羕 翺 者 𦓚 𦔣 聠 𦖨 聰 𣍟"),
  (0x2F981, 0x2F9A3, "䏕 育 脃 䐋 脾 媵 𦞧 𦞵 𣎓 𣎜 舁 舄 辞 䑫 芑 芋 芝 劳 花 芳 芽 苦 𦬼 若 茝 荣 莭 茣 莽 菧 著 荓 菊 菌 菜"),
  (0x2F9A4, 0x2F9C6, "𦰶 𦵫 𦳕 䔫 蓱 蓳 蔖 𧏊 蕤 𦼬 䕝 䕡 𦾱 𧃒 䕫 虐 虜 虧 虩 蚩 蚈 蜎 蛢 蝹 蜨 蝫 螆 䗗 蟡 蠁 䗹 衠 衣 𧙧 裗"),
  (0x2F9C7, 0x2F9E9, "裞 䘵 裺 㒻 𧢮 𧥦 䚾 䛇 誠 諭 變 豕 𧲨 貫 賁 贛 起 𧼯 𠠄 跋 趼 跰 𠣞 軔 輸 𨗒 𨗭 邔 郱 鄑 𨜮 鄛 鈸 鋗 鋘"),
  (0x2F9EA, 0x2FA0C, "鉼 鏹 鐕 𨯺 開 䦕 閷 𨵷 䧦 雃 嶲 霣 𩅅 𩈚 䩮 䩶 韠 𩐊 䪲 𩒖 頋 頋 頩 𩖶 飢 䬳 餩 馧 駂 駾 䯎 𩬰 鬒 鱀 鳽"),
  (0x2FA0D, 0x2FA1D, "䳎 䳭 鵧 𪃎 䳸 𪄅 𪈎 𪊑 麻 䵖 黹 黾 鼅 鼏 鼖 鼻 𪘀")]

end ProbeWatch.Url
