import PageComposer.Text.Lowercase

/-!
# Emoji by name

A text that is shown can name an emoji between two colons. A name may end in a skin tone, and `-emoji` or
`-text` behind it asks for the form of an emoji or of a text. What is no name stays as it is.
-/

namespace PageComposer.Text.Emoji

def listing : String :=
  "🥇:1st_place_medal 🥈:2nd_place_medal 🥉:3rd_place_medal 🆎:ab_button_(blood_type):ab 🏧:atm_sign:atm
🅰:a_button_(blood_type):a 🇦🇫:afghanistan:flag_for_afghanistan 🇦🇱:albania:flag_for_albania
🇩🇿:algeria:flag_for_algeria 🇦🇸:american_samoa:flag_for_american_samoa 🇦🇩:andorra:flag_for_andorra
🇦🇴:angola:flag_for_angola 🇦🇮:anguilla:flag_for_anguilla 🇦🇶:antarctica:flag_for_antarctica
🇦🇬:antigua_&_barbuda:flag_for_antigua_&_barbuda ♒:aquarius 🇦🇷:argentina:flag_for_argentina ♈:aries
🇦🇲:armenia:flag_for_armenia 🇦🇼:aruba:flag_for_aruba 🇦🇨:ascension_island:flag_for_ascension_island
🇦🇺:australia:flag_for_australia 🇦🇹:austria:flag_for_austria 🇦🇿:azerbaijan:flag_for_azerbaijan
🔙:back_arrow:back 🅱:b_button_(blood_type):b 🇧🇸:bahamas:flag_for_bahamas
🇧🇭:bahrain:flag_for_bahrain 🇧🇩:bangladesh:flag_for_bangladesh 🇧🇧:barbados:flag_for_barbados
🇧🇾:belarus:flag_for_belarus 🇧🇪:belgium:flag_for_belgium 🇧🇿:belize:flag_for_belize
🇧🇯:benin:flag_for_benin 🇧🇲:bermuda:flag_for_bermuda 🇧🇹:bhutan:flag_for_bhutan
🇧🇴:bolivia:flag_for_bolivia 🇧🇦:bosnia_&_herzegovina:flag_for_bosnia_&_herzegovina
🇧🇼:botswana:flag_for_botswana 🇧🇻:bouvet_island:flag_for_bouvet_island 🇧🇷:brazil:flag_for_brazil
🇮🇴:british_indian_ocean_territory:flag_for_british_indian_ocean_territory
🇻🇬:british_virgin_islands:flag_for_british_virgin_islands 🇧🇳:brunei:flag_for_brunei
🇧🇬:bulgaria:flag_for_bulgaria 🇧🇫:burkina_faso:flag_for_burkina_faso 🇧🇮:burundi:flag_for_burundi
🆑:cl_button:cl 🆒:cool_button:cool 🇰🇭:cambodia:flag_for_cambodia 🇨🇲:cameroon:flag_for_cameroon
🇨🇦:canada:flag_for_canada 🇮🇨:canary_islands:flag_for_canary_islands ♋:cancer
🇨🇻:cape_verde:flag_for_cape_verde ♑:capricorn
🇧🇶:caribbean_netherlands:flag_for_caribbean_netherlands 🇰🇾:cayman_islands:flag_for_cayman_islands
🇨🇫:central_african_republic:flag_for_central_african_republic
🇪🇦:ceuta_&_melilla:flag_for_ceuta_&_melilla 🇹🇩:chad:flag_for_chad 🇨🇱:chile:flag_for_chile
🇨🇳:china:flag_for_china 🇨🇽:christmas_island:flag_for_christmas_island 🎄:christmas_tree
🇨🇵:clipperton_island:flag_for_clipperton_island 🇨🇨:cocos_(keeling)_islands:flag_for_cocos__islands
🇨🇴:colombia:flag_for_colombia 🇰🇲:comoros:flag_for_comoros
🇨🇬:congo_-_brazzaville:flag_for_congo____brazzaville
🇨🇩:congo_-_kinshasa:flag_for_congo____kinshasa 🇨🇰:cook_islands:flag_for_cook_islands
🇨🇷:costa_rica:flag_for_costa_rica 🇭🇷:croatia:flag_for_croatia 🇨🇺:cuba:flag_for_cuba
🇨🇼:curaçao:flag_for_curaçao 🇨🇾:cyprus:flag_for_cyprus 🇨🇿:czechia:flag_for_czech_republic
🇨🇮:côte_d’ivoire:flag_for_côte_d’ivoire 🇩🇰:denmark:flag_for_denmark
🇩🇬:diego_garcia:flag_for_diego_garcia 🇩🇯:djibouti:flag_for_djibouti 🇩🇲:dominica:flag_for_dominica
🇩🇴:dominican_republic:flag_for_dominican_republic 🔚:end_arrow:end 🇪🇨:ecuador:flag_for_ecuador
🇪🇬:egypt:flag_for_egypt 🇸🇻:el_salvador:flag_for_el_salvador 🏴󠁧󠁢󠁥󠁮󠁧󠁿:england
🇬🇶:equatorial_guinea:flag_for_equatorial_guinea 🇪🇷:eritrea:flag_for_eritrea
🇪🇪:estonia:flag_for_estonia 🇪🇹:ethiopia:flag_for_ethiopia
🇪🇺:european_union:flag_for_european_union 🆓:free_button:free
🇫🇰:falkland_islands:flag_for_falkland_islands 🇫🇴:faroe_islands:flag_for_faroe_islands
🇫🇯:fiji:flag_for_fiji 🇫🇮:finland:flag_for_finland 🇫🇷:france:flag_for_france
🇬🇫:french_guiana:flag_for_french_guiana 🇵🇫:french_polynesia:flag_for_french_polynesia
🇹🇫:french_southern_territories:flag_for_french_southern_territories 🇬🇦:gabon:flag_for_gabon
🇬🇲:gambia:flag_for_gambia ♊:gemini 🇬🇪:georgia:flag_for_georgia 🇩🇪:germany:flag_for_germany
🇬🇭:ghana:flag_for_ghana 🇬🇮:gibraltar:flag_for_gibraltar 🇬🇷:greece:flag_for_greece
🇬🇱:greenland:flag_for_greenland 🇬🇩:grenada:flag_for_grenada 🇬🇵:guadeloupe:flag_for_guadeloupe
🇬🇺:guam:flag_for_guam 🇬🇹:guatemala:flag_for_guatemala 🇬🇬:guernsey:flag_for_guernsey
🇬🇳:guinea:flag_for_guinea 🇬🇼:guinea-bissau:flag_for_guinea__bissau 🇬🇾:guyana:flag_for_guyana
🇭🇹:haiti:flag_for_haiti 🇭🇲:heard_&_mcdonald_islands:flag_for_heard_&_mcdonald_islands
🇭🇳:honduras:flag_for_honduras 🇭🇰:hong_kong_sar_china:flag_for_hong_kong
🇭🇺:hungary:flag_for_hungary 🆔:id_button:id 🇮🇸:iceland:flag_for_iceland 🇮🇳:india:flag_for_india
🇮🇩:indonesia:flag_for_indonesia 🇮🇷:iran:flag_for_iran 🇮🇶:iraq:flag_for_iraq
🇮🇪:ireland:flag_for_ireland 🇮🇲:isle_of_man:flag_for_isle_of_man 🇮🇱:israel:flag_for_israel
🇮🇹:italy:flag_for_italy 🇯🇲:jamaica:flag_for_jamaica 🗾:japan:map_of_japan
🉑:japanese_acceptable_button:accept 🈸:japanese_application_button:u7533
🉐:japanese_bargain_button:ideograph_advantage 🏯:japanese_castle
㊗:japanese_congratulations_button:congratulations 🈹:japanese_discount_button:u5272
🎎:japanese_dolls:dolls 🈚:japanese_free_of_charge_button:u7121 🈁:japanese_here_button:koko
🈷:japanese_monthly_amount_button:u6708 🈵:japanese_no_vacancy_button:u6e80
🈶:japanese_not_free_of_charge_button:u6709 🈺:japanese_open_for_business_button:u55b6
🈴:japanese_passing_grade_button:u5408 🏣:japanese_post_office:post_office
🈲:japanese_prohibited_button:u7981 🈯:japanese_reserved_button:u6307
㊙:japanese_secret_button:secret 🈂:japanese_service_charge_button:sa
🔰:japanese_symbol_for_beginner:beginner 🈳:japanese_vacancy_button:u7a7a 🇯🇪:jersey:flag_for_jersey
🇯🇴:jordan:flag_for_jordan 🇰🇿:kazakhstan:flag_for_kazakhstan 🇰🇪:kenya:flag_for_kenya
🇰🇮:kiribati:flag_for_kiribati 🇽🇰:kosovo:flag_for_kosovo 🇰🇼:kuwait:flag_for_kuwait
🇰🇬:kyrgyzstan:flag_for_kyrgyzstan 🇱🇦:laos:flag_for_laos 🇱🇻:latvia:flag_for_latvia
🇱🇧:lebanon:flag_for_lebanon ♌:leo 🇱🇸:lesotho:flag_for_lesotho 🇱🇷:liberia:flag_for_liberia ♎:libra
🇱🇾:libya:flag_for_libya 🇱🇮:liechtenstein:flag_for_liechtenstein 🇱🇹:lithuania:flag_for_lithuania
🇱🇺:luxembourg:flag_for_luxembourg 🇲🇴:macau_sar_china:flag_for_macau
🇲🇰:macedonia:flag_for_macedonia 🇲🇬:madagascar:flag_for_madagascar 🇲🇼:malawi:flag_for_malawi
🇲🇾:malaysia:flag_for_malaysia 🇲🇻:maldives:flag_for_maldives 🇲🇱:mali:flag_for_mali
🇲🇹:malta:flag_for_malta 🇲🇭:marshall_islands:flag_for_marshall_islands
🇲🇶:martinique:flag_for_martinique 🇲🇷:mauritania:flag_for_mauritania
🇲🇺:mauritius:flag_for_mauritius 🇾🇹:mayotte:flag_for_mayotte 🇲🇽:mexico:flag_for_mexico
🇫🇲:micronesia:flag_for_micronesia 🇲🇩:moldova:flag_for_moldova 🇲🇨:monaco:flag_for_monaco
🇲🇳:mongolia:flag_for_mongolia 🇲🇪:montenegro:flag_for_montenegro 🇲🇸:montserrat:flag_for_montserrat
🇲🇦:morocco:flag_for_morocco 🇲🇿:mozambique:flag_for_mozambique 🤶:~mrs._claus
🇲🇲:myanmar_(burma):flag_for_myanmar 🆕:new_button:new 🆖:ng_button:ng 🇳🇦:namibia:flag_for_namibia
🇳🇷:nauru:flag_for_nauru 🇳🇵:nepal:flag_for_nepal 🇳🇱:netherlands:flag_for_netherlands
🇳🇨:new_caledonia:flag_for_new_caledonia 🇳🇿:new_zealand:flag_for_new_zealand
🇳🇮:nicaragua:flag_for_nicaragua 🇳🇪:niger:flag_for_niger 🇳🇬:nigeria:flag_for_nigeria
🇳🇺:niue:flag_for_niue 🇳🇫:norfolk_island:flag_for_norfolk_island
🇰🇵:north_korea:flag_for_north_korea 🇲🇵:northern_mariana_islands:flag_for_northern_mariana_islands
🇳🇴:norway:flag_for_norway 🆗:ok_button:ok 👌:~ok_hand 🔛:on!_arrow:on 🅾:o_button_(blood_type):o2
🇴🇲:oman:flag_for_oman ⛎:ophiuchus 🅿:p_button:parking 🇵🇰:pakistan:flag_for_pakistan
🇵🇼:palau:flag_for_palau 🇵🇸:palestinian_territories:flag_for_palestinian_territories
🇵🇦:panama:flag_for_panama 🇵🇬:papua_new_guinea:flag_for_papua_new_guinea
🇵🇾:paraguay:flag_for_paraguay 🇵🇪:peru:flag_for_peru 🇵🇭:philippines:flag_for_philippines ♓:pisces
🇵🇳:pitcairn_islands:flag_for_pitcairn_islands 🇵🇱:poland:flag_for_poland
🇵🇹:portugal:flag_for_portugal 🇵🇷:puerto_rico:flag_for_puerto_rico 🇶🇦:qatar:flag_for_qatar
🇷🇴:romania:flag_for_romania 🇷🇺:russia:flag_for_russia 🇷🇼:rwanda:flag_for_rwanda
🇷🇪:réunion:flag_for_réunion 🔜:soon_arrow:soon 🆘:sos_button:sos ♐:sagittarius
🇼🇸:samoa:flag_for_samoa 🇸🇲:san_marino:flag_for_san_marino 🎅:~santa_claus:santa
🇸🇦:saudi_arabia:flag_for_saudi_arabia ♏:scorpio:scorpius 🏴󠁧󠁢󠁳󠁣󠁴󠁿:scotland
🇸🇳:senegal:flag_for_senegal 🇷🇸:serbia:flag_for_serbia 🇸🇨:seychelles:flag_for_seychelles
🇸🇱:sierra_leone:flag_for_sierra_leone 🇸🇬:singapore:flag_for_singapore
🇸🇽:sint_maarten:flag_for_sint_maarten 🇸🇰:slovakia:flag_for_slovakia 🇸🇮:slovenia:flag_for_slovenia
🇸🇧:solomon_islands:flag_for_solomon_islands 🇸🇴:somalia:flag_for_somalia
🇿🇦:south_africa:flag_for_south_africa
🇬🇸:south_georgia_&_south_sandwich_islands:flag_for_south_georgia_&_south_sandwich_islands
🇰🇷:south_korea:flag_for_south_korea 🇸🇸:south_sudan:flag_for_south_sudan 🇪🇸:spain:flag_for_spain
🇱🇰:sri_lanka:flag_for_sri_lanka 🇧🇱:st._barthélemy:flag_for_st._barthélemy
🇸🇭:st._helena:flag_for_st._helena 🇰🇳:st._kitts_&_nevis:flag_for_st._kitts_&_nevis
🇱🇨:st._lucia:flag_for_st._lucia 🇲🇫:st._martin:flag_for_st._martin
🇵🇲:st._pierre_&_miquelon:flag_for_st._pierre_&_miquelon
🇻🇨:st._vincent_&_grenadines:flag_for_st._vincent_&_grenadines 🗽:statue_of_liberty
🇸🇩:sudan:flag_for_sudan 🇸🇷:suriname:flag_for_suriname
🇸🇯:svalbard_&_jan_mayen:flag_for_svalbard_&_jan_mayen 🇸🇿:swaziland:flag_for_swaziland
🇸🇪:sweden:flag_for_sweden 🇨🇭:switzerland:flag_for_switzerland 🇸🇾:syria:flag_for_syria
🇸🇹:são_tomé_&_príncipe:flag_for_são_tomé_&_príncipe 🦖:t-rex 🔝:top_arrow:top
🇹🇼:taiwan:flag_for_taiwan 🇹🇯:tajikistan:flag_for_tajikistan 🇹🇿:tanzania:flag_for_tanzania ♉:taurus
🇹🇭:thailand:flag_for_thailand 🇹🇱:timor-leste:flag_for_timor__leste 🇹🇬:togo:flag_for_togo
🇹🇰:tokelau:flag_for_tokelau 🗼:tokyo_tower 🇹🇴:tonga:flag_for_tonga
🇹🇹:trinidad_&_tobago:flag_for_trinidad_&_tobago 🇹🇦:tristan_da_cunha:flag_for_tristan_da_cunha
🇹🇳:tunisia:flag_for_tunisia 🦃:turkey 🇹🇲:turkmenistan:flag_for_turkmenistan
🇹🇨:turks_&_caicos_islands:flag_for_turks_&_caicos_islands 🇹🇻:tuvalu:flag_for_tuvalu
🇺🇲:u.s._outlying_islands:flag_for_u.s._outlying_islands
🇻🇮:u.s._virgin_islands:flag_for_u.s._virgin_islands 🆙:up!_button:up 🇺🇬:uganda:flag_for_uganda
🇺🇦:ukraine:flag_for_ukraine 🇦🇪:united_arab_emirates:flag_for_united_arab_emirates
🇬🇧:united_kingdom:flag_for_united_kingdom 🇺🇳:united_nations
🇺🇸:united_states:flag_for_united_states 🇺🇾:uruguay:flag_for_uruguay
🇺🇿:uzbekistan:flag_for_uzbekistan 🆚:vs_button:vs 🇻🇺:vanuatu:flag_for_vanuatu
🇻🇦:vatican_city:flag_for_vatican_city 🇻🇪:venezuela:flag_for_venezuela 🇻🇳:vietnam:flag_for_vietnam
♍:virgo 🏴󠁧󠁢󠁷󠁬󠁳󠁿:wales 🇼🇫:wallis_&_futuna:flag_for_wallis_&_futuna
🇪🇭:western_sahara:flag_for_western_sahara 🇾🇪:yemen:flag_for_yemen 🇿🇲:zambia:flag_for_zambia
🇿🇼:zimbabwe:flag_for_zimbabwe 🧮:abacus 🩹:adhesive_bandage 🎟:admission_tickets 🧑:~adult
🚡:aerial_tramway ✈:airplane 🛬:airplane_arrival:airplane_arriving 🛫:airplane_departure
⏰:alarm_clock ⚗:alembic 👽:alien 👾:alien_monster:space_invader 🚑:ambulance
🏈:american_football:football 🏺:amphora ⚓:anchor 💢:anger_symbol:anger 😠:angry_face:angry
👿:angry_face_with_horns:imp 😧:anguished_face:anguished 🐜:ant 📶:antenna_bars:signal_strength
😰:anxious_face_with_sweat:cold_sweat 🚛:articulated_lorry 🎨:artist_palette:art
😲:astonished_face:astonished ⚛:atom_symbol 🛺:auto_rickshaw 🚗:automobile:car:red_car 🥑:avocado
🪓:axe 👶:~baby 👼:~baby_angel:angel 🍼:baby_bottle 🐤:baby_chick 🚼:baby_symbol
👇:~backhand_index_pointing_down:point_down 👈:~backhand_index_pointing_left:point_left
👉:~backhand_index_pointing_right:point_right 👆:~backhand_index_pointing_up:point_up_2 🥓:bacon
🦡:badger 🏸:badminton:badminton_racquet_and_shuttlecock 🥯:bagel 🛄:baggage_claim 🥖:baguette_bread
⚖:balance_scale:scales 🦲:bald 👨‍🦲:bald_man 👩‍🦲:bald_woman 🩰:ballet_shoes 🎈:balloon
🗳:ballot_box_with_ballot ☑:ballot_box_with_check 🍌:banana 🪕:banjo 🏦:bank 📊:bar_chart
💈:barber_pole:barber ⚾:baseball 🧺:basket 🏀:basketball 🦇:bat 🛁:bathtub 🔋:battery
🏖:beach_with_umbrella 😁:beaming_face_with_smiling_eyes:grin 🐻:bear_face:bear 🧔:~bearded_person
💓:beating_heart:heartbeat 🛏:bed 🍺:beer_mug:beer 🔔:bell 🔕:bell_with_slash:no_bell 🛎:bellhop_bell
🍱:bento_box:bento 🧃:beverage_box 🚲:bicycle:bike 👙:bikini 🧢:billed_cap ☣:biohazard:biohazard_sign
🐦:bird 🎂:birthday_cake:birthday ⚫:black_circle 🏴:black_flag:waving_black_flag 🖤:black_heart
⬛:black_large_square ◾:black_medium-small_square:black_medium_small_square ◼:black_medium_square
✒:black_nib ▪:black_small_square 🔲:black_square_button 👱‍♂️:~blond-haired_man
👱:~blond-haired_person:person_with_blond_hair 👱‍♀️:~blond-haired_woman 🌼:blossom 🐡:blowfish
📘:blue_book 🔵:blue_circle:large_blue_circle 💙:blue_heart 🟦:blue_square 🐗:boar 💣:bomb 🦴:bone
🔖:bookmark 📑:bookmark_tabs 📚:books 🍾:bottle_with_popping_cork 💐:bouquet 🏹:bow_and_arrow
🥣:bowl_with_spoon 🎳:bowling 🥊:boxing_glove 👦:~boy 🧠:brain 🍞:bread 🤱:~breast-feeding 🧱:brick
👰:~bride_with_veil 🌉:bridge_at_night 💼:briefcase 🩲:briefs 🔆:bright_button:high_brightness
🥦:broccoli 💔:broken_heart 🧹:broom 🟤:brown_circle 🤎:brown_heart 🟫:brown_square 🐛:bug
🏗:building_construction 🚅:bullet_train:bullettrain_front 🌯:burrito 🚌:bus 🚏:bus_stop:busstop
👤:bust_in_silhouette 👥:busts_in_silhouette 🧈:butter 🦋:butterfly 🌵:cactus
📆:calendar:tear-off_calendar 🤙:~call_me_hand 🐫:camel:two-hump_camel 📷:camera 📸:camera_with_flash
🏕:camping 🕯:candle 🍬:candy 🥫:canned_food 🛶:canoe 🗃:card_file_box 📇:card_index
🗂:card_index_dividers 🎠:carousel_horse 🎏:carp_streamer:flags 🥕:carrot 🏰:castle:european_castle
🐱:cat:cat_face 😹:cat_face_with_tears_of_joy:joy_cat 😼:cat_face_with_wry_smile:smirk_cat ⛓:chains
🪑:chair 📉:chart_decreasing:chart_with_downwards_trend 📈:chart_increasing:chart_with_upwards_trend
💹:chart_increasing_with_yen:chart 🧀:cheese_wedge 🏁:chequered_flag:checkered_flag 🍒:cherries
🌸:cherry_blossom ♟:chess_pawn 🌰:chestnut 🐔:chicken 🧒:~child 🚸:children_crossing 🐿:chipmunk
🍫:chocolate_bar 🥢:chopsticks ⛪:church 🚬:cigarette:smoking 🎦:cinema Ⓜ:circled_m:m 🎪:circus_tent
🏙:cityscape 🌆:cityscape_at_dusk:city_sunset 🗜:clamp:compression 🎬:clapper_board:clapper
👏:~clapping_hands:clap 🏛:classical_building 🍻:clinking_beer_mugs:beers 🥂:clinking_glasses
📋:clipboard 🔃:clockwise_vertical_arrows:arrows_clockwise 📕:closed_book
📪:closed_mailbox_with_lowered_flag:mailbox_closed 📫:closed_mailbox_with_raised_flag:mailbox
🌂:closed_umbrella ☁:cloud 🌩:cloud_with_lightning
⛈:cloud_with_lightning_and_rain:thunder_cloud_and_rain 🌧:cloud_with_rain 🌨:cloud_with_snow
🤡:clown_face ♣:club_suit:clubs 👝:clutch_bag:pouch 🧥:coat 🍸:cocktail_glass:cocktail 🥥:coconut
⚰:coffin 🥶:cold_face 💥:collision:boom ☄:comet 🧭:compass 💽:computer_disk:minidisc
🖱:computer_mouse:three_button_mouse 🎊:confetti_ball 😖:confounded_face:confounded
😕:confused_face:confused 🚧:construction 👷:~construction_worker 🎛:control_knobs 🏪:convenience_store
🍚:cooked_rice:rice 🍪:cookie 🍳:cooking:egg ©:copyright 🛋:couch_and_lamp
🔄:counterclockwise_arrows_button:arrows_counterclockwise 💑:couple_with_heart
👨‍❤️‍👨:couple_with_heart_man_man 👩‍❤️‍👨:couple_with_heart_woman_man
👩‍❤️‍👩:couple_with_heart_woman_woman 🐮:cow:cow_face 🤠:cowboy_hat_face 🦀:crab
🖍:crayon:lower_left_crayon 💳:credit_card 🌙:crescent_moon 🦗:cricket
🏏:cricket_game:cricket_bat_and_ball 🐊:crocodile 🥐:croissant ❌:cross_mark:x
❎:cross_mark_button:negative_squared_cross_mark 🤞:~crossed_fingers 🎌:crossed_flags
⚔:crossed_swords 👑:crown 😿:crying_cat_face 😢:crying_face:cry 🔮:crystal_ball 🥒:cucumber 🧁:cupcake
🥤:cup_with_straw 🥌:curling_stone 🦱:curly_hair 👨‍🦱:curly-haired_man 👩‍🦱:curly-haired_woman
➰:curly_loop 💱:currency_exchange 🍛:curry_rice:curry 🍮:custard 🛃:customs 🥩:cut_of_meat 🌀:cyclone
🗡:dagger:dagger_knife 🍡:dango 💨:dashing_away:dash 🧏:deaf_person 🌳:deciduous_tree 🦌:deer
🚚:delivery_truck:truck 🏬:department_store 🏚:derelict_house:derelict_house_building 🏜:desert
🏝:desert_island 🖥:desktop_computer 🕵:~detective:sleuth_or_spy ♦:diamond_suit:diamonds
💠:diamond_with_a_dot:diamond_shape_with_a_dot_inside 🔅:dim_button:low_brightness 🎯:direct_hit:dart
😞:disappointed_face:disappointed 🤿:diving_mask 🪔:diya_lamp 💫:dizzy 😵:dizzy_face 🧬:dna
🐶:dog:dog_face 💵:dollar_banknote:dollar 🐬:dolphin:flipper 🚪:door
🔯:dotted_six-pointed_star:six_pointed_star ➿:double_curly_loop:loop
‼:double_exclamation_mark:bangbang 🍩:doughnut 🕊:dove:dove_of_peace
↙:down-left_arrow:arrow_lower_left ↘:down-right_arrow:arrow_lower_right ⬇:down_arrow:arrow_down
😓:downcast_face_with_sweat:sweat 🔽:downwards_button:arrow_down_small 🐉:dragon 🐲:dragon_face
👗:dress 🤤:drooling_face 🩸:drop_of_blood 💧:droplet 🥁:drum 🦆:duck 🥟:dumpling 📀:dvd 📧:e-mail:e__mail
🦅:eagle 👂:~ear 🌽:ear_of_corn:corn 🦻:ear_with_hearing_aid 🍆:eggplant
✴:eight-pointed_star:eight_pointed_black_star ✳:eight-spoked_asterisk:eight_spoked_asterisk
🕣:eight-thirty:clock830 🕗:eight_o’clock:clock8 ⏏:eject_button:eject_symbol 🔌:electric_plug
🐘:elephant 🕦:eleven-thirty:clock1130 🕚:eleven_o’clock:clock11 🧝:~elf ✉:envelope:email
📩:envelope_with_arrow 💶:euro_banknote:euro 🌲:evergreen_tree 🐑:ewe:sheep
❗:exclamation_mark:exclamation:heavy_exclamation_mark ⁉:exclamation_question_mark:interrobang
🤯:exploding_head 😑:expressionless_face:expressionless 👁:eye 👁️‍🗨️:eye_in_speech_bubble 👀:eyes
😘:face_blowing_a_kiss:kissing_heart 😋:face_savoring_food:yum 😱:face_screaming_in_fear:scream
🤮:face_vomiting 🤭:face_with_hand_over_mouth 🤕:face_with_head-bandage:face_with_head__bandage
😷:face_with_medical_mask:mask 🧐:face_with_monocle 😮:face_with_open_mouth:open_mouth
🤨:face_with_raised_eyebrow 🙄:face_with_rolling_eyes 😤:face_with_steam_from_nose:triumph
🤬:face_with_symbols_on_mouth 😂:face_with_tears_of_joy:joy 🤒:face_with_thermometer
😛:face_with_tongue:stuck_out_tongue 😶:face_without_mouth:no_mouth 🏭:factory 🧚:~fairy 🧆:falafel
🍂:fallen_leaf 👪:family 👨‍👦:family_man_boy 👨‍👦‍👦:family_man_boy_boy 👨‍👧:family_man_girl
👨‍👧‍👦:family_man_girl_boy 👨‍👧‍👧:family_man_girl_girl 👨‍👨‍👦:family_man_man_boy
👨‍👨‍👦‍👦:family_man_man_boy_boy 👨‍👨‍👧:family_man_man_girl 👨‍👨‍👧‍👦:family_man_man_girl_boy
👨‍👨‍👧‍👧:family_man_man_girl_girl 👨‍👩‍👦:family_man_woman_boy 👨‍👩‍👦‍👦:family_man_woman_boy_boy
👨‍👩‍👧:family_man_woman_girl 👨‍👩‍👧‍👦:family_man_woman_girl_boy 👨‍👩‍👧‍👧:family_man_woman_girl_girl
👩‍👦:family_woman_boy 👩‍👦‍👦:family_woman_boy_boy 👩‍👧:family_woman_girl 👩‍👧‍👦:family_woman_girl_boy
👩‍👧‍👧:family_woman_girl_girl 👩‍👩‍👦:family_woman_woman_boy 👩‍👩‍👦‍👦:family_woman_woman_boy_boy
👩‍👩‍👧:family_woman_woman_girl 👩‍👩‍👧‍👦:family_woman_woman_girl_boy
👩‍👩‍👧‍👧:family_woman_woman_girl_girl ⏩:fast-forward_button:fast_forward
⏬:fast_down_button:arrow_double_down ⏪:fast_reverse_button:rewind ⏫:fast_up_button:arrow_double_up
📠:fax_machine:fax 😨:fearful_face:fearful ♀:female_sign 🎡:ferris_wheel ⛴:ferry
🏑:field_hockey:field_hockey_stick_and_ball 🗄:file_cabinet 📁:file_folder 🎞:film_frames
📽:film_projector 🔥:fire 🧯:fire_extinguisher 🧨:firecracker 🚒:fire_engine 🎆:fireworks
🌓:first_quarter_moon 🌛:first_quarter_moon_face:first_quarter_moon_with_face 🐟:fish
🍥:fish_cake_with_swirl:fish_cake 🎣:fishing_pole:fishing_pole_and_fish 🕠:five-thirty:clock530
🕔:five_o’clock:clock5 ⛳:flag_in_hole:golf 🦩:flamingo 🔦:flashlight 🥿:flat_shoe
⚜:fleur-de-lis:fleur__de__lis 💪:~flexed_biceps:muscle 💾:floppy_disk 🎴:flower_playing_cards
😳:flushed_face:flushed 🥏:flying_disc 🛸:flying_saucer 🌫:fog 🌁:foggy 🙏:~folded_hands:pray 🦶:foot
👣:footprints 🍴:fork_and_knife 🍽:fork_and_knife_with_plate 🥠:fortune_cookie ⛲:fountain
🖋:fountain_pen:lower_left_fountain_pen 🕟:four-thirty:clock430 🍀:four_leaf_clover
🕓:four_o’clock:clock4 🦊:fox_face 🖼:framed_picture:frame_with_picture 🍟:french_fries:fries
🍤:fried_shrimp 🐸:frog_face:frog 🐥:front-facing_baby_chick:hatched_chick
☹:frowning_face:white_frowning_face 😦:frowning_face_with_open_mouth:frowning ⛽:fuel_pump:fuelpump
🌕:full_moon 🌝:full_moon_face:full_moon_with_face ⚱:funeral_urn 🎲:game_die 🧄:garlic ⚙:gear
💎:gem_stone:gem 🧞:genie 👻:ghost 🦒:giraffe 👧:~girl 🥛:glass_of_milk 👓:glasses:eyeglasses
🌎:globe_showing_americas:earth_americas 🌏:globe_showing_asia-australia:earth_asia
🌍:globe_showing_europe-africa:earth_africa 🌐:globe_with_meridians 🧤:gloves 🌟:glowing_star:star2
🥅:goal_net 🐐:goat 👺:goblin:japanese_goblin 🥽:goggles 🦍:gorilla 🎓:graduation_cap:mortar_board
🍇:grapes 🍏:green_apple 📗:green_book 🟢:green_circle 💚:green_heart 🥗:green_salad 🟩:green_square
😬:grimacing_face:grimacing 😺:grinning_cat_face:smiley_cat
😸:grinning_cat_face_with_smiling_eyes:smile_cat 😀:grinning_face:grinning
😃:grinning_face_with_big_eyes:smiley 😄:grinning_face_with_smiling_eyes:smile
😅:grinning_face_with_sweat:sweat_smile 😆:grinning_squinting_face:laughing:satisfied
💗:growing_heart:heartpulse 💂:~guard:guardsman 🦮:guide_dog 🎸:guitar 🍔:hamburger 🔨:hammer
⚒:hammer_and_pick 🛠:hammer_and_wrench 🐹:hamster_face:hamster
🖐:~hand_with_fingers_splayed:raised_hand_with_fingers_splayed 👜:handbag 🤝:handshake
🐣:hatching_chick 🎧:headphone:headphones 🙉:hear-no-evil_monkey:hear_no_evil 💟:heart_decoration
♥:heart_suit:hearts 💘:heart_with_arrow:cupid 💝:heart_with_ribbon:gift_heart ✔:heavy_check_mark
➗:heavy_division_sign 💲:heavy_dollar_sign
❣:heavy_heart_exclamation:heavy_heart_exclamation_mark_ornament ⭕:heavy_large_circle:o
➖:heavy_minus_sign ✖:heavy_multiplication_x ➕:heavy_plus_sign 🦔:hedgehog 🚁:helicopter 🌿:herb
🌺:hibiscus 👠:high-heeled_shoe:high_heel 🚄:high-speed_train:bullettrain_side ⚡:high_voltage:zap
🥾:hiking_boot 🛕:hindu_temple 🦛:hippopotamus 🕳:hole 🍯:honey_pot 🐝:honeybee:bee
🚥:horizontal_traffic_light:traffic_light 🐴:horse:horse_face 🏇:~horse_racing 🏥:hospital
☕:hot_beverage:coffee 🌭:hot_dog 🥵:hot_face 🌶:hot_pepper ♨:hot_springs:hotsprings 🏨:hotel
⌛:hourglass_done:hourglass ⏳:hourglass_not_done:hourglass_flowing_sand 🏠:house 🏡:house_with_garden
🏘:houses:house_buildings 🤗:hugging_face 💯:hundred_points:100 😯:hushed_face:hushed 🧊:ice
🍨:ice_cream 🏒:ice_hockey:ice_hockey_stick_and_puck ⛸:ice_skate 📥:inbox_tray 📨:incoming_envelope
☝:~index_pointing_up:point_up ♾:infinity ℹ:information:information_source
🔤:input_latin_letters:abc 🔡:input_latin_lowercase:abcd 🔠:input_latin_uppercase:capital_abcd
🔢:input_numbers:1234 🔣:input_symbols:symbols 🎃:jack-o-lantern:jack_o_lantern 👖:jeans 🧩:jigsaw
🃏:joker:black_joker 🕹:joystick 🕋:kaaba 🦘:kangaroo 🔑:key ⌨:keyboard #️⃣:keycap_# *️⃣:keycap_*
0️⃣:keycap_0:zero 1️⃣:keycap_1:one 🔟:keycap_10:ten 2️⃣:keycap_2:two 3️⃣:keycap_3:three
4️⃣:keycap_4:four 5️⃣:keycap_5:five 6️⃣:keycap_6:six 7️⃣:keycap_7:seven 8️⃣:keycap_8:eight
9️⃣:keycap_9:nine 🛴:kick_scooter 👘:kimono 💋:kiss:kiss_mark 👨‍❤️‍💋‍👨:kiss_man_man
👩‍❤️‍💋‍👨:kiss_woman_man 👩‍❤️‍💋‍👩:kiss_woman_woman 😽:kissing_cat_face:kissing_cat
😗:kissing_face:kissing 😚:kissing_face_with_closed_eyes:kissing_closed_eyes
😙:kissing_face_with_smiling_eyes:kissing_smiling_eyes 🔪:kitchen_knife:hocho:knife 🪁:kite
🥝:kiwi_fruit 🐨:koala 🥼:lab_coat 🏷:label 🥍:lacrosse 🐞:lady_beetle:beetle 💻:laptop_computer:computer
🔷:large_blue_diamond 🔶:large_orange_diamond 🌗:last_quarter_moon
🌜:last_quarter_moon_face:last_quarter_moon_with_face
⏮:last_track_button:black_left__pointing_double_triangle_with_vertical_bar ✝:latin_cross
🍃:leaf_fluttering_in_wind:leaves 🥬:leafy_green 📒:ledger 🤛:~left-facing_fist
↔:left-right_arrow:left_right_arrow ⬅:left_arrow:arrow_left
↪:left_arrow_curving_right:arrow_right_hook 🛅:left_luggage 🗨:left_speech_bubble 🦵:leg 🍋:lemon
🐆:leopard 🎚:level_slider 💡:light_bulb:bulb 🚈:light_rail 🔗:link 🖇:linked_paperclips 🦁:lion_face
💄:lipstick 🚮:litter_in_bin_sign:put_litter_in_its_place 🦎:lizard 🦙:llama 🦞:lobster 🔒:locked:lock
🔐:locked_with_key:closed_lock_with_key 🔏:locked_with_pen:lock_with_ink_pen
🚂:locomotive:steam_locomotive 🍭:lollipop 🧴:lotion_bottle 😭:loudly_crying_face:sob 📢:loudspeaker
🤟:~love-you_gesture 🏩:love_hotel 💌:love_letter 🧳:luggage 🤥:lying_face 🧙:~mage 🧲:magnet
🔍:magnifying_glass_tilted_left:mag 🔎:magnifying_glass_tilted_right:mag_right
🀄:mahjong_red_dragon:mahjong ♂:male_sign 👨:~man 👫:man_and_woman_holding_hands:couple
👨‍🎨:~man_artist 👨‍🚀:~man_astronaut 🚴‍♂️:~man_biking ⛹️‍♂️:~man_bouncing_ball 🙇‍♂️:~man_bowing
🤸‍♂️:~man_cartwheeling 🧗‍♂️:~man_climbing 👷‍♂️:~man_construction_worker 👨‍🍳:~man_cook
🕺:~man_dancing 🕵️‍♂️:~man_detective 🧝‍♂️:~man_elf 🤦‍♂️:~man_facepalming 👨‍🏭:~man_factory_worker
🧚‍♂️:~man_fairy 👨‍🌾:~man_farmer 👨‍🚒:~man_firefighter 🙍‍♂️:~man_frowning 🧞‍♂️:man_genie
🙅‍♂️:~man_gesturing_no 🙆‍♂️:~man_gesturing_ok 💇‍♂️:~man_getting_haircut 💆‍♂️:~man_getting_massage
🏌️‍♂️:~man_golfing 💂‍♂️:~man_guard 👨‍⚕️:~man_health_worker 🧘‍♂️:~man_in_lotus_position
👨‍🦽:man_in_manual_wheelchair 👨‍🦼:man_in_motorized_wheelchair 🧖‍♂️:~man_in_steamy_room
🕴:~man_in_suit_levitating:man_in_business_suit_levitating 🤵:~man_in_tuxedo 👨‍⚖️:~man_judge
🤹‍♂️:~man_juggling 🏋️‍♂️:~man_lifting_weights 🧙‍♂️:~man_mage 👨‍🔧:~man_mechanic
🚵‍♂️:~man_mountain_biking 👨‍💼:~man_office_worker 👨‍✈️:~man_pilot 🤾‍♂️:~man_playing_handball
🤽‍♂️:~man_playing_water_polo 👮‍♂️:~man_police_officer 🙎‍♂️:~man_pouting 🙋‍♂️:~man_raising_hand
🚣‍♂️:~man_rowing_boat 🏃‍♂️:~man_running 👨‍🔬:~man_scientist 🤷‍♂️:~man_shrugging 👨‍🎤:~man_singer
👨‍🎓:~man_student 🏄‍♂️:~man_surfing 🏊‍♂️:~man_swimming 👨‍🏫:~man_teacher 👨‍💻:~man_technologist
💁‍♂️:~man_tipping_hand 🧛‍♂️:~man_vampire 🚶‍♂️:~man_walking 👳‍♂️:~man_wearing_turban
👨‍🦯:man_with_probing_cane 👲:~man_with_chinese_cap:man_with_gua_pi_mao 🧟‍♂️:man_zombie 🥭:mango
🕰:mantelpiece_clock 🦽:manual_wheelchair 👞:man’s_shoe:mans_shoe:shoe 🍁:maple_leaf
🥋:martial_arts_uniform 🧉:mate 🍖:meat_on_bone 🦾:mechanical_arm 🦿:mechanical_leg ⚕:medical_symbol
📣:megaphone:mega 🍈:melon 📝:memo:pencil 👯‍♂️:men_with_bunny_ears 🤼‍♂️:men_wrestling
🕎:menorah:menorah_with_nine_branches 🚹:men’s_room:mens 🧜‍♀️:~mermaid 🧜‍♂️:~merman 🧜:~merperson
🚇:metro 🦠:microbe 🎤:microphone 🔬:microscope
🖕:~middle_finger:reversed_hand_with_middle_finger_extended 🎖:military_medal 🌌:milky_way 🚐:minibus
🗿:moai:moyai 📱:mobile_phone:iphone 📴:mobile_phone_off 📲:mobile_phone_with_arrow:calling
🤑:money-mouth_face:money__mouth_face 💰:money_bag:moneybag 💸:money_with_wings 🐒:monkey
🐵:monkey_face 🚝:monorail 🥮:moon_cake 🎑:moon_viewing_ceremony:rice_scene 🕌:mosque 🦟:mosquito
🛥:motor_boat 🛵:motor_scooter 🏍:motorcycle:racing_motorcycle 🦼:motorized_wheelchair 🛣:motorway
🗻:mount_fuji ⛰:mountain 🚠:mountain_cableway 🚞:mountain_railway 🐭:mouse:mouse_face 👄:mouth:lips
🎥:movie_camera 🍄:mushroom 🎹:musical_keyboard 🎵:musical_note 🎶:musical_notes:notes 🎼:musical_score
🔇:muted_speaker:mute 💅:~nail_polish:nail_care 📛:name_badge 🏞:national_park 🤢:nauseated_face
🧿:nazar_amulet 👔:necktie 🤓:nerd_face 😐:neutral_face 🌑:new_moon 🌚:new_moon_face:new_moon_with_face
📰:newspaper ⏭:next_track_button:black_right__pointing_double_triangle_with_vertical_bar
🌃:night_with_stars 🕤:nine-thirty:clock930 🕘:nine_o’clock:clock9 🚳:no_bicycles ⛔:no_entry
🚯:no_littering:do_not_litter 📵:no_mobile_phones 🔞:no_one_under_eighteen:underage 🚷:no_pedestrians
🚭:no_smoking 🚱:non-potable_water:non__potable_water 👃:~nose 📓:notebook
📔:notebook_with_decorative_cover 🔩:nut_and_bolt 🐙:octopus 🍢:oden 🏢:office_building:office
👹:ogre:japanese_ogre 🛢:oil_drum 🗝:old_key 👴:~old_man:older_man 👵:~old_woman:older_woman
🧓:~older_adult 🕉:om:om_symbol 🚘:oncoming_automobile 🚍:oncoming_bus
👊:~oncoming_fist:facepunch:punch 🚔:oncoming_police_car 🚖:oncoming_taxi 🩱:one-piece_swimsuit
🕜:one-thirty:clock130 🕐:one_o’clock:clock1 🧅:onion 📖:open_book:book 📂:open_file_folder
👐:~open_hands 📭:open_mailbox_with_lowered_flag:mailbox_with_no_mail
📬:open_mailbox_with_raised_flag:mailbox_with_mail 💿:optical_disk:cd 📙:orange_book 🟠:orange_circle
🧡:orange_heart 🟧:orange_square 🦧:orangutan ☦:orthodox_cross 🦦:otter 📤:outbox_tray 🦉:owl 🐂:ox
🦪:oyster 📦:package 📄:page_facing_up 📃:page_with_curl 📟:pager 🖌:paintbrush:lower_left_paintbrush
🌴:palm_tree 🤲:~palms_up_together 🥞:pancakes 🐼:panda_face 📎:paperclip 🦜:parrot
〽:part_alternation_mark 🎉:party_popper:tada 🥳:partying_face 🛳:passenger_ship 🛂:passport_control
⏸:pause_button:double_vertical_bar 🐾:paw_prints:feet ☮:peace_symbol 🍑:peach 🦚:peacock 🥜:peanuts
🍐:pear 🖊:pen:lower_left_ballpoint_pen 🐧:penguin 😔:pensive_face:pensive 🧑‍🤝‍🧑:people_holding_hands
👯:people_with_bunny_ears:dancers 🤼:people_wrestling 🎭:performing_arts 😣:persevering_face:persevere
🚴:~person_biking:bicyclist ⛹:~person_bouncing_ball:person_with_ball 🙇:~person_bowing:bow
🤸:~person_cartwheeling 🧗:~person_climbing 🤦:~person_facepalming 🤺:person_fencing
🙍:~person_frowning 🙅:~person_gesturing_no:no_good 🙆:~person_gesturing_ok:ok_woman
💇:~person_getting_haircut:haircut 💆:~person_getting_massage:massage 🏌:~person_golfing:golfer
🛌:~person_in_bed:sleeping_accommodation 🧘:~person_in_lotus_position 🧖:~person_in_steamy_room
🤹:~person_juggling 🧎:person_kneeling 🏋:~person_lifting_weights:weight_lifter
🚵:~person_mountain_biking:mountain_bicyclist 🤾:~person_playing_handball
🤽:~person_playing_water_polo 🙎:~person_pouting:person_with_pouting_face
🙋:~person_raising_hand:raising_hand 🚣:~person_rowing_boat:rowboat 🏃:~person_running:runner:running
🤷:~person_shrugging 🧍:person_standing 🏄:~person_surfing:surfer 🏊:~person_swimming:swimmer
🛀:~person_taking_bath:bath 💁:~person_tipping_hand:information_desk_person
🚶:~person_walking:walking 👳:~person_wearing_turban:man_with_turban 🧫:petri_dish ⛏:pick 🥧:pie
🐷:pig:pig_face 🐽:pig_nose 💩:pile_of_poo:hankey:poop:shit 💊:pill 🤏:pinching_hand
🎍:pine_decoration:bamboo 🍍:pineapple 🏓:ping_pong:table_tennis_paddle_and_ball 🏴‍☠️:pirate_flag
🔫:pistol:gun 🍕:pizza 🛐:place_of_worship ▶:play_button:arrow_forward
⏯:play_or_pause_button:black_right__pointing_triangle_with_double_vertical_bar 🥺:pleading_face
🚓:police_car 🚨:police_car_light:rotating_light 👮:~police_officer:cop 🐩:poodle 🎱:pool_8_ball:8ball
🍿:popcorn 📯:postal_horn 📮:postbox 🍲:pot_of_food:stew 🚰:potable_water 🥔:potato 🍗:poultry_leg
💷:pound_banknote:pound 😾:pouting_cat_face:pouting_cat 😡:pouting_face:rage 📿:prayer_beads
🤰:~pregnant_woman 🥨:pretzel 🦯:probing_cane 🤴:~prince 👸:~princess 🖨:printer
🚫:prohibited:no_entry_sign 🟣:purple_circle 💜:purple_heart 🟪:purple_square 👛:purse 📌:pushpin
❓:question_mark:question 🐰:rabbit:rabbit_face 🦝:raccoon 🏎:racing_car 📻:radio 🔘:radio_button
☢:radioactive:radioactive_sign 🚃:railway_car 🛤:railway_track 🌈:rainbow 🏳️‍🌈:rainbow_flag
🤚:~raised_back_of_hand ✊:~raised_fist:fist ✋:~raised_hand:hand 🙌:~raising_hands:raised_hands 🐏:ram
🐀:rat 🪒:razor 🪐:ringed_planet 🧾:receipt ⏺:record_button:black_circle_for_record
♻:recycling_symbol:recycle 🍎:red_apple:apple 🔴:red_circle 🧧:red_envelope 🦰:red_hair
👨‍🦰:red-haired_man 👩‍🦰:red-haired_woman ❤:red_heart:heart
🏮:red_paper_lantern:izakaya_lantern:lantern 🟥:red_square
🔻:red_triangle_pointed_down:small_red_triangle_down 🔺:red_triangle_pointed_up:small_red_triangle
®:registered 😌:relieved_face:relieved 🎗:reminder_ribbon 🔁:repeat_button:repeat
🔂:repeat_single_button:repeat_one ⛑:rescue_worker’s_helmet:helmet_with_white_cross 🚻:restroom
◀:reverse_button:arrow_backward 💞:revolving_hearts 🦏:rhinoceros 🎀:ribbon 🍙:rice_ball
🍘:rice_cracker 🤜:~right-facing_fist 🗯:right_anger_bubble ➡:right_arrow:arrow_right
⤵:right_arrow_curving_down:arrow_heading_down ↩:right_arrow_curving_left:leftwards_arrow_with_hook
⤴:right_arrow_curving_up:arrow_heading_up 💍:ring 🍠:roasted_sweet_potato:sweet_potato
🤖:robot_face:robot 🚀:rocket 🧻:roll_of_paper 🗞:rolled-up_newspaper:rolled__up_newspaper
🎢:roller_coaster 🤣:rolling_on_the_floor_laughing 🐓:rooster 🌹:rose 🏵:rosette 📍:round_pushpin
🏉:rugby_football 🎽:running_shirt:running_shirt_with_sash 👟:running_shoe:athletic_shoe
😥:sad_but_relieved_face:disappointed_relieved 🧷:safety_pin 🦺:safety_vest 🧂:salt ⛵:sailboat:boat
🍶:sake 🥪:sandwich 🥻:sari 📡:satellite:satellite_antenna 🦕:sauropod 🎷:saxophone 🧣:scarf 🏫:school
🎒:school_backpack:school_satchel ✂:scissors 🦂:scorpion 📜:scroll 💺:seat
🙈:see-no-evil_monkey:see_no_evil 🌱:seedling 🤳:~selfie 🐕‍🦺:service_dog 🕢:seven-thirty:clock730
🕖:seven_o’clock:clock7 🥘:shallow_pan_of_food ☘:shamrock 🦈:shark 🍧:shaved_ice
🌾:sheaf_of_rice:ear_of_rice 🛡:shield ⛩:shinto_shrine 🚢:ship 🌠:shooting_star:stars 🛍:shopping_bags
🛒:shopping_cart 🍰:shortcake:cake 🩳:shorts 🚿:shower 🦐:shrimp
🔀:shuffle_tracks_button:twisted_rightwards_arrows 🤫:shushing_face 🤘:~sign_of_the_horns
🕡:six-thirty:clock630 🕕:six_o’clock:clock6 🛹:skateboard ⛷:skier 🎿:skis:ski 💀:skull
☠:skull_and_crossbones 🦨:skunk 🛷:sled 😴:sleeping_face:sleeping 😪:sleepy_face:sleepy
🙁:slightly_frowning_face 🙂:slightly_smiling_face 🎰:slot_machine 🦥:sloth 🛩:small_airplane
🔹:small_blue_diamond 🔸:small_orange_diamond 😻:smiling_cat_face_with_heart-eyes:heart_eyes_cat
☺:smiling_face:relaxed 😇:smiling_face_with_halo:innocent 🥰:smiling_face_with_3_hearts
😍:smiling_face_with_heart-eyes:heart_eyes 😈:smiling_face_with_horns:smiling_imp
😊:smiling_face_with_smiling_eyes:blush 😎:smiling_face_with_sunglasses:sunglasses
😏:smirking_face:smirk 🐌:snail 🐍:snake 🤧:sneezing_face 🏔:snow-capped_mountain:snow_capped_mountain
🏂:~snowboarder ❄:snowflake ☃:snowman ⛄:snowman_without_snow 🧼:soap ⚽:soccer_ball:soccer 🧦:socks
🥎:softball 🍦:soft_ice_cream:icecream ♠:spade_suit:spades 🍝:spaghetti ❇:sparkle 🎇:sparkler
✨:sparkles 💖:sparkling_heart 🙊:speak-no-evil_monkey:speak_no_evil 🔊:speaker_high_volume:loud_sound
🔈:speaker_low_volume:speaker 🔉:speaker_medium_volume:sound
🗣:speaking_head:speaking_head_in_silhouette 💬:speech_balloon 🚤:speedboat 🕷:spider 🕸:spider_web
🗓:spiral_calendar:spiral_calendar_pad 🗒:spiral_notepad:spiral_note_pad 🐚:spiral_shell:shell
🥄:spoon 🧽:sponge 🚙:sport_utility_vehicle:blue_car 🏅:sports_medal 🐳:spouting_whale:whale 🦑:squid
😝:squinting_face_with_tongue:stuck_out_tongue_closed_eyes 🏟:stadium 🤩:star-struck
☪:star_and_crescent ✡:star_of_david 🚉:station 🍜:steaming_bowl:ramen 🩺:stethoscope
⏹:stop_button:black_square_for_stop 🛑:stop_sign ⏱:stopwatch 📏:straight_ruler 🍓:strawberry
🎙:studio_microphone 🥙:stuffed_flatbread ☀:sun:sunny ⛅:sun_behind_cloud:partly_sunny
🌥:sun_behind_large_cloud:white_sun_behind_cloud
🌦:sun_behind_rain_cloud:white_sun_behind_cloud_with_rain
🌤:sun_behind_small_cloud:white_sun_with_small_cloud 🌞:sun_with_face 🌻:sunflower 🌅:sunrise
🌄:sunrise_over_mountains 🌇:sunset:city_sunrise 🦸:superhero 🦹:supervillain 🍣:sushi
🚟:suspension_railway 🦢:swan 💦:sweat_droplets:sweat_drops 🕍:synagogue 💉:syringe
👕:t-shirt:shirt:tshirt 🌮:taco 🥡:takeout_box 🎋:tanabata_tree 🍊:tangerine 🚕:taxi
🍵:teacup_without_handle:tea 🧸:teddy_bear ☎:telephone:phone 📞:telephone_receiver 🔭:telescope
📺:television:tv 🕥:ten-thirty:clock1030 🕙:ten_o’clock:clock10 🎾:tennis ⛺:tent 🧪:test_tube
🌡:thermometer 🤔:thinking_face 💭:thought_balloon 🧵:thread 🕞:three-thirty:clock330
🕒:three_o’clock:clock3 👎:~thumbs_down:__1:-1:thumbsdown 👍:~thumbs_up:+1:thumbsup 🎫:ticket
🐯:tiger:tiger_face ⏲:timer_clock 😫:tired_face 🧰:toolbox 🚽:toilet 🍅:tomato 👅:tongue 🦷:tooth
🎩:top_hat:tophat 🌪:tornado:cloud_with_tornado 🖲:trackball 🚜:tractor ™:trade_mark:tm
🚋:train:tram_car 🚊:tram 🚩:triangular_flag:triangular_flag_on_post 📐:triangular_ruler
🔱:trident_emblem:trident 🚎:trolleybus 🏆:trophy 🍹:tropical_drink 🐠:tropical_fish 🎺:trumpet 🌷:tulip
🥃:tumbler_glass 🐢:turtle 🕧:twelve-thirty:clock1230 🕛:twelve_o’clock:clock12 🕝:two-thirty:clock230
💕:two_hearts 👬:two_men_holding_hands 🕑:two_o’clock:clock2 👭:two_women_holding_hands ☂:umbrella
⛱:umbrella_on_ground ☔:umbrella_with_rain_drops 😒:unamused_face:unamused 🦄:unicorn_face
🔓:unlocked:unlock ↕:up-down_arrow:arrow_up_down ↖:up-left_arrow:arrow_upper_left
↗:up-right_arrow:arrow_upper_right ⬆:up_arrow:arrow_up 🙃:upside-down_face:upside__down_face
🔼:upwards_button:arrow_up_small 🧛:~vampire 🚦:vertical_traffic_light 📳:vibration_mode
✌:~victory_hand:v 📹:video_camera 🎮:video_game 📼:videocassette:vhs 🎻:violin 🌋:volcano 🏐:volleyball
🖖:~vulcan_salute:raised_hand_with_part_between_middle_and_ring_fingers 🧇:waffle
🌘:waning_crescent_moon 🌖:waning_gibbous_moon ⚠:warning 🗑:wastebasket ⌚:watch 🐃:water_buffalo
🚾:water_closet:wc 🌊:water_wave:ocean 🍉:watermelon 👋:~waving_hand:wave 〰:wavy_dash
🌒:waxing_crescent_moon 🌔:waxing_gibbous_moon:moon 🙀:weary_cat_face:scream_cat 😩:weary_face:weary
💒:wedding ☸:wheel_of_dharma ♿:wheelchair_symbol:wheelchair ⚪:white_circle
❕:white_exclamation_mark:grey_exclamation 🏳:white_flag:waving_white_flag 💮:white_flower
🦳:white_hair 👨‍🦳:white-haired_man 👩‍🦳:white-haired_woman 🤍:white_heart
✅:white_heavy_check_mark:white_check_mark ⬜:white_large_square
◽:white_medium-small_square:white_medium_small_square ◻:white_medium_square
⭐:white_medium_star:star ❔:white_question_mark:grey_question ▫:white_small_square
🔳:white_square_button 🥀:wilted_flower 🎐:wind_chime 🌬:wind_face:wind_blowing_face 🍷:wine_glass
😉:winking_face:wink 😜:winking_face_with_tongue:stuck_out_tongue_winking_eye 🐺:wolf_face:wolf
👩:~woman 👩‍🎨:~woman_artist 👩‍🚀:~woman_astronaut 🚴‍♀️:~woman_biking ⛹️‍♀️:~woman_bouncing_ball
🙇‍♀️:~woman_bowing 🤸‍♀️:~woman_cartwheeling 🧗‍♀️:~woman_climbing 👷‍♀️:~woman_construction_worker
👩‍🍳:~woman_cook 💃:~woman_dancing:dancer 🕵️‍♀️:~woman_detective 🧝‍♀️:~woman_elf
🤦‍♀️:~woman_facepalming 👩‍🏭:~woman_factory_worker 🧚‍♀️:~woman_fairy 👩‍🌾:~woman_farmer
👩‍🚒:~woman_firefighter 🙍‍♀️:~woman_frowning 🧞‍♀️:woman_genie 🙅‍♀️:~woman_gesturing_no
🙆‍♀️:~woman_gesturing_ok 💇‍♀️:~woman_getting_haircut 💆‍♀️:~woman_getting_massage
🏌️‍♀️:~woman_golfing 💂‍♀️:~woman_guard 👩‍⚕️:~woman_health_worker 🧘‍♀️:~woman_in_lotus_position
👩‍🦽:woman_in_manual_wheelchair 👩‍🦼:woman_in_motorized_wheelchair 🧖‍♀️:~woman_in_steamy_room
👩‍⚖️:~woman_judge 🤹‍♀️:~woman_juggling 🏋️‍♀️:~woman_lifting_weights 🧙‍♀️:~woman_mage
👩‍🔧:~woman_mechanic 🚵‍♀️:~woman_mountain_biking 👩‍💼:~woman_office_worker 👩‍✈️:~woman_pilot
🤾‍♀️:~woman_playing_handball 🤽‍♀️:~woman_playing_water_polo 👮‍♀️:~woman_police_officer
🙎‍♀️:~woman_pouting 🙋‍♀️:~woman_raising_hand 🚣‍♀️:~woman_rowing_boat 🏃‍♀️:~woman_running
👩‍🔬:~woman_scientist 🤷‍♀️:~woman_shrugging 👩‍🎤:~woman_singer 👩‍🎓:~woman_student
🏄‍♀️:~woman_surfing 🏊‍♀️:~woman_swimming 👩‍🏫:~woman_teacher 👩‍💻:~woman_technologist
💁‍♀️:~woman_tipping_hand 🧛‍♀️:~woman_vampire 🚶‍♀️:~woman_walking 👳‍♀️:~woman_wearing_turban
🧕:~woman_with_headscarf 👩‍🦯:woman_with_probing_cane 🧟‍♀️:woman_zombie 👢:woman’s_boot:boot
👚:woman’s_clothes:womans_clothes 👒:woman’s_hat:womans_hat 👡:woman’s_sandal:sandal
👯‍♀️:women_with_bunny_ears 🤼‍♀️:women_wrestling 🚺:women’s_room:womens 🥴:woozy_face 🗺:world_map
😟:worried_face:worried 🎁:wrapped_gift:gift 🔧:wrench ✍:~writing_hand 🧶:yarn 🥱:yawning_face
🟡:yellow_circle 💛:yellow_heart 🟨:yellow_square 💴:yen_banknote:yen 🪀:yo-yo ☯:yin_yang 🤪:zany_face
🦓:zebra 🤐:zipper-mouth_face:zipper__mouth_face 🧟:zombie 💤:zzz
🇦🇽:åland_islands:flag_for_åland_islands *⃣:keycap_asterisk 8⃣:keycap_digit_eight
5⃣:keycap_digit_five 4⃣:keycap_digit_four 9⃣:keycap_digit_nine 1⃣:keycap_digit_one
7⃣:keycap_digit_seven 6⃣:keycap_digit_six 3⃣:keycap_digit_three 2⃣:keycap_digit_two
0⃣:keycap_digit_zero #⃣:keycap_number_sign 🏻:light_skin_tone:emoji_modifier_fitzpatrick_type__1__2
🏼:medium_light_skin_tone:emoji_modifier_fitzpatrick_type__3
🏽:medium_skin_tone:emoji_modifier_fitzpatrick_type__4
🏾:medium_dark_skin_tone:emoji_modifier_fitzpatrick_type__5
🏿:dark_skin_tone:emoji_modifier_fitzpatrick_type__6
🇦:regional_indicator_symbol_letter_a:regional_indicator_a
🇧:regional_indicator_symbol_letter_b:regional_indicator_b
🇨:regional_indicator_symbol_letter_c:regional_indicator_c
🇩:regional_indicator_symbol_letter_d:regional_indicator_d
🇪:regional_indicator_symbol_letter_e:regional_indicator_e
🇫:regional_indicator_symbol_letter_f:regional_indicator_f
🇬:regional_indicator_symbol_letter_g:regional_indicator_g
🇭:regional_indicator_symbol_letter_h:regional_indicator_h
🇮:regional_indicator_symbol_letter_i:regional_indicator_i
🇯:regional_indicator_symbol_letter_j:regional_indicator_j
🇰:regional_indicator_symbol_letter_k:regional_indicator_k
🇱:regional_indicator_symbol_letter_l:regional_indicator_l
🇲:regional_indicator_symbol_letter_m:regional_indicator_m
🇳:regional_indicator_symbol_letter_n:regional_indicator_n
🇴:regional_indicator_symbol_letter_o:regional_indicator_o
🇵:regional_indicator_symbol_letter_p:regional_indicator_p
🇶:regional_indicator_symbol_letter_q:regional_indicator_q
🇷:regional_indicator_symbol_letter_r:regional_indicator_r
🇸:regional_indicator_symbol_letter_s:regional_indicator_s
🇹:regional_indicator_symbol_letter_t:regional_indicator_t
🇺:regional_indicator_symbol_letter_u:regional_indicator_u
🇻:regional_indicator_symbol_letter_v:regional_indicator_v
🇼:regional_indicator_symbol_letter_w:regional_indicator_w
🇽:regional_indicator_symbol_letter_x:regional_indicator_x
🇾:regional_indicator_symbol_letter_y:regional_indicator_y
🇿:regional_indicator_symbol_letter_z:regional_indicator_z 📅:date 🐈:cat2 🐄:cow2 🕶:dark_sunglasses
🐕:dog2 🐪:dromedary_camel 🏤:european_post_office 🇯🇵:flag_for_japan 🇹🇷:flag_for_turkey ⎈:helm_symbol
🐎:racehorse 💏:couplekiss 🐁:mouse2 ✏:pencil2 🐖:pig2 🐇:rabbit2 🐅:tiger2 🚆:train2 🐋:whale2"

structure Entry where
  emoji : Text
  name : Text
  toned : Bool

def entry (emoji : Text) : Text → Entry
  | '~' :: name => ⟨emoji, name, true⟩
  | name => ⟨emoji, name, false⟩

def entries : List Entry :=
  ((listing.toList.map fun c => if c = '\n' then ' ' else c).splitOn ' ').flatMap fun word =>
    match word.splitOn ':' with
    | emoji :: names => names.map (entry emoji)
    | [] => []

def tones : List (Char × Text) :=
  [('🏻', "_light_skin_tone".toList), ('🏼', "_medium-light_skin_tone".toList),
   ('🏽', "_medium_skin_tone".toList), ('🏾', "_medium-dark_skin_tone".toList),
   ('🏿', "_dark_skin_tone".toList)]

/-- The emoji in a skin tone, which stands behind its first character in place of a selector. -/
def withTone (tone : Char) : Text → Text
  | first :: rest => first :: tone :: dropLead ['\ufe0f'] rest
  | [] => []

def tonedOf? (name : Text) : Option Text :=
  tones.findSome? fun (tone, ending) =>
    if ending.isSuffixOf name then
      (entries.find? fun e => e.toned && e.name == dropTail ending name).map (withTone tone ·.emoji)
    else none

def ofName? (name : Text) : Option Text :=
  match entries.find? (·.name == name) with
  | some e => some e.emoji
  | none => tonedOf? name

def ofCode? (code : Text) : Option Text :=
  if "-emoji".toList.isSuffixOf code then
    (ofName? (lower (dropTail "-emoji".toList code))).map (· ++ ['\ufe0f'])
  else if "-text".toList.isSuffixOf code then
    (ofName? (lower (dropTail "-text".toList code))).map (· ++ ['\ufe0e'])
  else ofName? (lower code)

def replaceFrom : Nat → Text → Text
  | _, [] => []
  | skip + 1, _ :: rest => replaceFrom skip rest
  | 0, c :: rest =>
    let code := rest.takeWhile fun c => c != ':' && !isBlank c
    if c = ':' ∧ (rest.drop code.length).head? = some ':' then
      (ofCode? code).getD (':' :: code ++ [':']) ++ replaceFrom (code.length + 1) rest
    else c :: replaceFrom 0 rest

def replace (s : Text) : Text := replaceFrom 0 s

end PageComposer.Text.Emoji
