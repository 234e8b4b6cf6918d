set_option autoImplicit false

/-!
# Names of characters: Pictures

The names of the characters from 1F000 to 10FFFF: pictures, tiles, cards and tags.

Names of pictures share few words with each other, and most of them are written out.
-/

namespace BoundSql.Text

/-- The table of the names of the characters from 1F000 to 10FFFF. -/
def picturesNames : String :=
  String.join [
    "1F000=0 MAHJONG TILE EAST WIND;2 SOUTH WIND;2 WEST WIND;2 NORTH WIND;2 RED DRAGON;2 GREEN ",
    "DRAGON;2 WHITE DRAGON;2 ONE OF CHARACTERS;2 TWO OF CHARACTERS;2 THREE OF CHARACTERS;2 FOUR ",
    "OF CHARACTERS;2 FIVE OF CHARACTERS;2 SIX OF CHARACTERS;2 SEVEN OF CHARACTERS;2 EIGHT OF ",
    "CHARACTERS;2 NINE OF CHARACTERS;2 ONE OF BAMBOOS;2 TWO OF BAMBOOS;2 THREE OF BAMBOOS;2 FOUR ",
    "OF BAMBOOS;2 FIVE OF BAMBOOS;2 SIX OF BAMBOOS;2 SEVEN OF BAMBOOS;2 EIGHT OF BAMBOOS;2 NINE ",
    "OF BAMBOOS;2 ONE OF CIRCLES;2 TWO OF CIRCLES;2 THREE OF CIRCLES;2 FOUR OF CIRCLES;2 FIVE OF ",
    "CIRCLES;2 SIX OF CIRCLES;2 SEVEN OF CIRCLES;2 EIGHT OF CIRCLES;2 NINE OF CIRCLES;2 PLUM;2 ",
    "ORCHID;2 BAMBOO;2 CHRYSANTHEMUM;2 SPRING;2 SUMMER;2 AUTUMN;2 WINTER;2 JOKER;2 BACK;1F030=0 ",
    "DOMINO TILE HORIZONTAL BACK;2 HORIZONTAL-00-00;2 HORIZONTAL-00-01;2 HORIZONTAL-00-02;2 ",
    "HORIZONTAL-00-03;2 HORIZONTAL-00-04;2 HORIZONTAL-00-05;2 HORIZONTAL-00-06;2 ",
    "HORIZONTAL-01-00;2 HORIZONTAL-01-01;2 HORIZONTAL-01-02;2 HORIZONTAL-01-03;2 ",
    "HORIZONTAL-01-04;2 HORIZONTAL-01-05;2 HORIZONTAL-01-06;2 HORIZONTAL-02-00;2 ",
    "HORIZONTAL-02-01;2 HORIZONTAL-02-02;2 HORIZONTAL-02-03;2 HORIZONTAL-02-04;2 ",
    "HORIZONTAL-02-05;2 HORIZONTAL-02-06;2 HORIZONTAL-03-00;2 HORIZONTAL-03-01;2 ",
    "HORIZONTAL-03-02;2 HORIZONTAL-03-03;2 HORIZONTAL-03-04;2 HORIZONTAL-03-05;2 ",
    "HORIZONTAL-03-06;2 HORIZONTAL-04-00;2 HORIZONTAL-04-01;2 HORIZONTAL-04-02;2 ",
    "HORIZONTAL-04-03;2 HORIZONTAL-04-04;2 HORIZONTAL-04-05;2 HORIZONTAL-04-06;2 ",
    "HORIZONTAL-05-00;2 HORIZONTAL-05-01;2 HORIZONTAL-05-02;2 HORIZONTAL-05-03;2 ",
    "HORIZONTAL-05-04;2 HORIZONTAL-05-05;2 HORIZONTAL-05-06;2 HORIZONTAL-06-00;2 ",
    "HORIZONTAL-06-01;2 HORIZONTAL-06-02;2 HORIZONTAL-06-03;2 HORIZONTAL-06-04;2 ",
    "HORIZONTAL-06-05;2 HORIZONTAL-06-06;2 VERTICAL BACK;2 VERTICAL-00-00;2 VERTICAL-00-01;2 ",
    "VERTICAL-00-02;2 VERTICAL-00-03;2 VERTICAL-00-04;2 VERTICAL-00-05;2 VERTICAL-00-06;2 ",
    "VERTICAL-01-00;2 VERTICAL-01-01;2 VERTICAL-01-02;2 VERTICAL-01-03;2 VERTICAL-01-04;2 ",
    "VERTICAL-01-05;2 VERTICAL-01-06;2 VERTICAL-02-00;2 VERTICAL-02-01;2 VERTICAL-02-02;2 ",
    "VERTICAL-02-03;2 VERTICAL-02-04;2 VERTICAL-02-05;2 VERTICAL-02-06;2 VERTICAL-03-00;2 ",
    "VERTICAL-03-01;2 VERTICAL-03-02;2 VERTICAL-03-03;2 VERTICAL-03-04;2 VERTICAL-03-05;2 ",
    "VERTICAL-03-06;2 VERTICAL-04-00;2 VERTICAL-04-01;2 VERTICAL-04-02;2 VERTICAL-04-03;2 ",
    "VERTICAL-04-04;2 VERTICAL-04-05;2 VERTICAL-04-06;2 VERTICAL-05-00;2 VERTICAL-05-01;2 ",
    "VERTICAL-05-02;2 VERTICAL-05-03;2 VERTICAL-05-04;2 VERTICAL-05-05;2 VERTICAL-05-06;2 ",
    "VERTICAL-06-00;2 VERTICAL-06-01;2 VERTICAL-06-02;2 VERTICAL-06-03;2 VERTICAL-06-04;2 ",
    "VERTICAL-06-05;2 VERTICAL-06-06;1F0A0=0 PLAYING CARD BACK;2 ACE OF SPADES;2 TWO OF SPADES;2 ",
    "THREE OF SPADES;2 FOUR OF SPADES;2 FIVE OF SPADES;2 SIX OF SPADES;2 SEVEN OF SPADES;2 EIGHT ",
    "OF SPADES;2 NINE OF SPADES;2 TEN OF SPADES;2 JACK OF SPADES;2 KNIGHT OF SPADES;2 QUEEN OF ",
    "SPADES;2 KING OF SPADES;1F0B1=2 ACE OF HEARTS;2 TWO OF HEARTS;2 THREE OF HEARTS;2 FOUR OF ",
    "HEARTS;2 FIVE OF HEARTS;2 SIX OF HEARTS;2 SEVEN OF HEARTS;2 EIGHT OF HEARTS;2 NINE OF ",
    "HEARTS;2 TEN OF HEARTS;2 JACK OF HEARTS;2 KNIGHT OF HEARTS;2 QUEEN OF HEARTS;2 KING OF ",
    "HEARTS;2 RED JOKER;1F0C1=2 ACE OF DIAMONDS;2 TWO OF DIAMONDS;2 THREE OF DIAMONDS;2 FOUR OF ",
    "DIAMONDS;2 FIVE OF DIAMONDS;2 SIX OF DIAMONDS;2 SEVEN OF DIAMONDS;2 EIGHT OF DIAMONDS;2 ",
    "NINE OF DIAMONDS;2 TEN OF DIAMONDS;2 JACK OF DIAMONDS;2 KNIGHT OF DIAMONDS;2 QUEEN OF ",
    "DIAMONDS;2 KING OF DIAMONDS;2 BLACK JOKER;1F0D1=2 ACE OF CLUBS;2 TWO OF CLUBS;2 THREE OF ",
    "CLUBS;2 FOUR OF CLUBS;2 FIVE OF CLUBS;2 SIX OF CLUBS;2 SEVEN OF CLUBS;2 EIGHT OF CLUBS;2 ",
    "NINE OF CLUBS;2 TEN OF CLUBS;2 JACK OF CLUBS;2 KNIGHT OF CLUBS;2 QUEEN OF CLUBS;2 KING OF ",
    "CLUBS;2 WHITE JOKER;2 FOOL;2 TRUMP-1;2 TRUMP-2;2 TRUMP-3;2 TRUMP-4;2 TRUMP-5;2 TRUMP-6;2 ",
    "TRUMP-7;2 TRUMP-8;2 TRUMP-9;2 TRUMP-10;2 TRUMP-11;2 TRUMP-12;2 TRUMP-13;2 TRUMP-14;2 ",
    "TRUMP-15;2 TRUMP-16;2 TRUMP-17;2 TRUMP-18;2 TRUMP-19;2 TRUMP-20;2 TRUMP-21;1F100=0 DIGIT ",
    "ZERO FULL STOP;2 COMMA;1 ONE COMMA;1 TWO COMMA;1 THREE COMMA;1 FOUR COMMA;1 FIVE COMMA;1 ",
    "SIX COMMA;1 SEVEN COMMA;1 EIGHT COMMA;1 NINE COMMA;0 DINGBAT CIRCLED SANS-SERIF DIGIT ZERO;",
    "1 NEGATIVE CIRCLED SANS-SERIF DIGIT ZERO;0 CIRCLED ZERO WITH SLASH;1 ANTICLOCKWISE ARROW;1 ",
    "DOLLAR SIGN WITH OVERLAID BACKSLASH;0 PARENTHESIZED LATIN CAPITAL LETTER A;4 B;4 C;4 D;4 E;",
    "4 F;4 G;4 H;4 I;4 J;4 K;4 L;4 M;4 N;4 O;4 P;4 Q;4 R;4 S;4 T;4 U;4 V;4 W;4 X;4 Y;4 Z;0 ",
    "TORTOISE SHELL BRACKETED LATIN CAPITAL LETTER S;0 CIRCLED ITALIC LATIN CAPITAL LETTER C;5 R;",
    "1 CD;1 WZ;0 COPYLEFT SYMBOL;0 SQUARED LATIN CAPITAL LETTER A;4 B;4 C;4 D;4 E;4 F;4 G;4 H;4 ",
    "I;4 J;4 K;4 L;4 M;4 N;4 O;4 P;4 Q;4 R;4 S;4 T;4 U;4 V;4 W;4 X;4 Y;4 Z;1 HV;1 MV;1 SD;1 SS;1 ",
    "PPV;1 WC;0 NEGATIVE CIRCLED LATIN CAPITAL LETTER A;5 B;5 C;5 D;5 E;5 F;5 G;5 H;5 I;5 J;5 K;",
    "5 L;5 M;5 N;5 O;5 P;5 Q;5 R;5 S;5 T;5 U;5 V;5 W;5 X;5 Y;5 Z;0 RAISED MC SIGN;1 MD SIGN;1 MR ",
    "SIGN;0 CIRCLED CC;1 C WITH OVERLAID BACKSLASH;1 HUMAN FIGURE;0 NEGATIVE SQUARED LATIN ",
    "CAPITAL LETTER A;5 B;5 C;5 D;5 E;5 F;5 G;5 H;5 I;5 J;5 K;5 L;5 M;5 N;5 O;5 P;5 Q;5 R;5 S;5 ",
    "T;5 U;5 V;5 W;5 X;5 Y;5 Z;0 CROSSED NEGATIVE SQUARED LATIN CAPITAL LETTER P;0 NEGATIVE ",
    "SQUARED IC;2 PA;2 SA;2 AB;2 WC;0 SQUARE DJ;0 SQUARED CL;1 COOL;1 FREE;1 ID;1 NEW;1 NG;1 OK;",
    "1 SOS;1 UP WITH EXCLAMATION MARK;1 VS;1 THREE D;1 SECOND SCREEN;1 TWO K;1 FOUR K;1 EIGHT K;",
    "1 FIVE POINT ONE;1 SEVEN POINT ONE;1 TWENTY-TWO POINT TWO;1 SIXTY P;1 ONE HUNDRED TWENTY P;",
    "1 LATIN SMALL LETTER D;1 HC;1 HDR;1 HI-RES;1 LOSSLESS;1 SHV;1 UHD;1 VOD;0 MASK WORK SYMBOL;",
    "1F1E6=0 REGIONAL INDICATOR SYMBOL LETTER A;4 B;4 C;4 D;4 E;4 F;4 G;4 H;4 I;4 J;4 K;4 L;4 M;",
    "4 N;4 O;4 P;4 Q;4 R;4 S;4 T;4 U;4 V;4 W;4 X;4 Y;4 Z;0 SQUARE HIRAGANA HOKA;0 SQUARED ",
    "KATAKANA KOKO;2 SA;1F210=1 CJK UNIFIED IDEOGRAPH-624B;3 IDEOGRAPH-5B57;3 IDEOGRAPH-53CC;1 ",
    "KATAKANA DE;1 CJK UNIFIED IDEOGRAPH-4E8C;3 IDEOGRAPH-591A;3 IDEOGRAPH-89E3;3 IDEOGRAPH-5929;",
    "3 IDEOGRAPH-4EA4;3 IDEOGRAPH-6620;3 IDEOGRAPH-7121;3 IDEOGRAPH-6599;3 IDEOGRAPH-524D;3 ",
    "IDEOGRAPH-5F8C;3 IDEOGRAPH-518D;3 IDEOGRAPH-65B0;3 IDEOGRAPH-521D;3 IDEOGRAPH-7D42;3 ",
    "IDEOGRAPH-751F;3 IDEOGRAPH-8CA9;3 IDEOGRAPH-58F0;3 IDEOGRAPH-5439;3 IDEOGRAPH-6F14;3 ",
    "IDEOGRAPH-6295;3 IDEOGRAPH-6355;3 IDEOGRAPH-4E00;3 IDEOGRAPH-4E09;3 IDEOGRAPH-904A;3 ",
    "IDEOGRAPH-5DE6;3 IDEOGRAPH-4E2D;3 IDEOGRAPH-53F3;3 IDEOGRAPH-6307;3 IDEOGRAPH-8D70;3 ",
    "IDEOGRAPH-6253;3 IDEOGRAPH-7981;3 IDEOGRAPH-7A7A;3 IDEOGRAPH-5408;3 IDEOGRAPH-6E80;3 ",
    "IDEOGRAPH-6709;3 IDEOGRAPH-6708;3 IDEOGRAPH-7533;3 IDEOGRAPH-5272;3 IDEOGRAPH-55B6;3 ",
    "IDEOGRAPH-914D;1F240=0 TORTOISE SHELL BRACKETED CJK UNIFIED IDEOGRAPH-672C;5 IDEOGRAPH-4E09;",
    "5 IDEOGRAPH-4E8C;5 IDEOGRAPH-5B89;5 IDEOGRAPH-70B9;5 IDEOGRAPH-6253;5 IDEOGRAPH-76D7;5 ",
    "IDEOGRAPH-52DD;5 IDEOGRAPH-6557;1F250=0 CIRCLED IDEOGRAPH ADVANTAGE;2 ACCEPT;1F260=0 ",
    "ROUNDED SYMBOL FOR FU;3 LU;3 SHOU;3 XI;3 SHUANGXI;3 CAI;1F300=0 CYCLONE;0 FOGGY;0 CLOSED ",
    "UMBRELLA;0 NIGHT WITH STARS;0 SUNRISE OVER MOUNTAINS;1;0 CITYSCAPE AT DUSK;0 SUNSET OVER ",
    "BUILDINGS;0 RAINBOW;0 BRIDGE AT NIGHT;0 WATER WAVE;0 VOLCANO;0 MILKY WAY;0 EARTH GLOBE ",
    "EUROPE-AFRICA;2 AMERICAS;2 ASIA-AUSTRALIA;0 GLOBE WITH MERIDIANS;0 NEW MOON SYMBOL;0 WAXING ",
    "CRESCENT MOON SYMBOL;0 FIRST QUARTER MOON SYMBOL;0 WAXING GIBBOUS MOON SYMBOL;0 FULL MOON ",
    "SYMBOL;0 WANING GIBBOUS MOON SYMBOL;0 LAST QUARTER MOON SYMBOL;0 WANING CRESCENT MOON ",
    "SYMBOL;0 CRESCENT MOON;0 NEW MOON WITH FACE;0 FIRST QUARTER MOON WITH FACE;0 LAST QUARTER ",
    "MOON WITH FACE;0 FULL MOON WITH FACE;0 SUN WITH FACE;0 GLOWING STAR;0 SHOOTING STAR;0 ",
    "THERMOMETER;0 BLACK DROPLET;0 WHITE SUN;2 WITH SMALL CLOUD;2 BEHIND CLOUD;4 WITH RAIN;0 ",
    "CLOUD WITH RAIN;2 SNOW;2 LIGHTNING;2 TORNADO;0 FOG;0 WIND BLOWING FACE;0 HOT DOG;0 TACO;0 ",
    "BURRITO;0 CHESTNUT;0 SEEDLING;0 EVERGREEN TREE;0 DECIDUOUS TREE;0 PALM TREE;0 CACTUS;0 HOT ",
    "PEPPER;0 TULIP;0 CHERRY BLOSSOM;0 ROSE;0 HIBISCUS;0 SUNFLOWER;0 BLOSSOM;0 EAR OF MAIZE;2 ",
    "RICE;0 HERB;0 FOUR LEAF CLOVER;0 MAPLE LEAF;0 FALLEN LEAF;0 LEAF FLUTTERING IN WIND;0 ",
    "MUSHROOM;0 TOMATO;0 AUBERGINE;0 GRAPES;0 MELON;0 WATERMELON;0 TANGERINE;0 LEMON;0 BANANA;0 ",
    "PINEAPPLE;0 RED APPLE;0 GREEN APPLE;0 PEAR;0 PEACH;0 CHERRIES;0 STRAWBERRY;0 HAMBURGER;0 ",
    "SLICE OF PIZZA;0 MEAT ON BONE;0 POULTRY LEG;0 RICE CRACKER;1 BALL;0 COOKED RICE;0 CURRY AND ",
    "RICE;0 STEAMING BOWL;0 SPAGHETTI;0 BREAD;0 FRENCH FRIES;0 ROASTED SWEET POTATO;0 DANGO;0 ",
    "ODEN;0 SUSHI;0 FRIED SHRIMP;0 FISH CAKE WITH SWIRL DESIGN;0 SOFT ICE CREAM;0 SHAVED ICE;0 ",
    "ICE CREAM;0 DOUGHNUT;0 COOKIE;0 CHOCOLATE BAR;0 CANDY;0 LOLLIPOP;0 CUSTARD;0 HONEY POT;0 ",
    "SHORTCAKE;0 BENTO BOX;0 POT OF FOOD;0 COOKING;0 FORK AND KNIFE;0 TEACUP WITHOUT HANDLE;0 ",
    "SAKE BOTTLE AND CUP;0 WINE GLASS;0 COCKTAIL GLASS;0 TROPICAL DRINK;0 BEER MUG;0 CLINKING ",
    "BEER MUGS;0 BABY BOTTLE;0 FORK AND KNIFE WITH PLATE;0 BOTTLE WITH POPPING CORK;0 POPCORN;0 ",
    "RIBBON;0 WRAPPED PRESENT;0 BIRTHDAY CAKE;0 JACK-O-LANTERN;0 CHRISTMAS TREE;0 FATHER ",
    "CHRISTMAS;0 FIREWORKS;0 FIREWORK SPARKLER;0 BALLOON;0 PARTY POPPER;0 CONFETTI BALL;0 ",
    "TANABATA TREE;0 CROSSED FLAGS;0 PINE DECORATION;0 JAPANESE DOLLS;0 CARP STREAMER;0 WIND ",
    "CHIME;0 MOON VIEWING CEREMONY;0 SCHOOL SATCHEL;0 GRADUATION CAP;0 HEART WITH TIP ON THE ",
    "LEFT;0 BOUQUET OF FLOWERS;0 MILITARY MEDAL;0 REMINDER RIBBON;0 MUSICAL KEYBOARD WITH JACKS;",
    "0 STUDIO MICROPHONE;0 LEVEL SLIDER;0 CONTROL KNOBS;0 BEAMED ASCENDING MUSICAL NOTES;1 ",
    "DESCENDING MUSICAL NOTES;0 FILM FRAMES;0 ADMISSION TICKETS;0 CAROUSEL HORSE;0 FERRIS WHEEL;",
    "0 ROLLER COASTER;0 FISHING POLE AND FISH;0 MICROPHONE;0 MOVIE CAMERA;0 CINEMA;0 HEADPHONE;0 ",
    "ARTIST PALETTE;0 TOP HAT;0 CIRCUS TENT;0 TICKET;0 CLAPPER BOARD;0 PERFORMING ARTS;0 VIDEO ",
    "GAME;0 DIRECT HIT;0 SLOT MACHINE;0 BILLIARDS;0 GAME DIE;0 BOWLING;0 FLOWER PLAYING CARDS;0 ",
    "MUSICAL NOTE;0 MULTIPLE MUSICAL NOTES;0 SAXOPHONE;0 GUITAR;0 MUSICAL KEYBOARD;0 TRUMPET;0 ",
    "VIOLIN;0 MUSICAL SCORE;0 RUNNING SHIRT WITH SASH;0 TENNIS RACQUET AND BALL;0 SKI AND SKI ",
    "BOOT;0 BASKETBALL AND HOOP;0 CHEQUERED FLAG;0 SNOWBOARDER;0 RUNNER;0 SURFER;0 SPORTS MEDAL;",
    "0 TROPHY;0 HORSE RACING;0 AMERICAN FOOTBALL;0 RUGBY FOOTBALL;0 SWIMMER;0 WEIGHT LIFTER;0 ",
    "GOLFER;0 RACING MOTORCYCLE;1 CAR;0 CRICKET BAT AND BALL;0 VOLLEYBALL;0 FIELD HOCKEY STICK ",
    "AND BALL;0 ICE HOCKEY STICK AND PUCK;0 TABLE TENNIS PADDLE AND BALL;0 SNOW CAPPED MOUNTAIN;",
    "0 CAMPING;0 BEACH WITH UMBRELLA;0 BUILDING CONSTRUCTION;0 HOUSE BUILDINGS;0 CITYSCAPE;0 ",
    "DERELICT HOUSE BUILDING;0 CLASSICAL BUILDING;0 DESERT;1 ISLAND;0 NATIONAL PARK;0 STADIUM;0 ",
    "HOUSE BUILDING;1 WITH GARDEN;0 OFFICE BUILDING;0 JAPANESE POST OFFICE;0 EUROPEAN POST ",
    "OFFICE;0 HOSPITAL;0 BANK;0 AUTOMATED TELLER MACHINE;0 HOTEL;0 LOVE HOTEL;0 CONVENIENCE ",
    "STORE;0 SCHOOL;0 DEPARTMENT STORE;0 FACTORY;0 IZAKAYA LANTERN;0 JAPANESE CASTLE;0 EUROPEAN ",
    "CASTLE;0 WHITE PENNANT;0 BLACK PENNANT;0 WAVING WHITE FLAG;1 BLACK FLAG;0 ROSETTE;0 BLACK ",
    "ROSETTE;0 LABEL;0 BADMINTON RACQUET AND SHUTTLECOCK;0 BOW AND ARROW;0 AMPHORA;0 EMOJI ",
    "MODIFIER FITZPATRICK TYPE-1-2;3 TYPE-3;3 TYPE-4;3 TYPE-5;3 TYPE-6;0 RAT;0 MOUSE;0 OX;0 ",
    "WATER BUFFALO;0 COW;0 TIGER;0 LEOPARD;0 RABBIT;0 CAT;0 DRAGON;0 CROCODILE;0 WHALE;0 SNAIL;0 ",
    "SNAKE;0 HORSE;0 RAM;0 GOAT;0 SHEEP;0 MONKEY;0 ROOSTER;0 CHICKEN;0 DOG;0 PIG;0 BOAR;0 ",
    "ELEPHANT;0 OCTOPUS;0 SPIRAL SHELL;0 BUG;0 ANT;0 HONEYBEE;0 LADY BEETLE;0 FISH;0 TROPICAL ",
    "FISH;0 BLOWFISH;0 TURTLE;0 HATCHING CHICK;0 BABY CHICK;0 FRONT-FACING BABY CHICK;0 BIRD;0 ",
    "PENGUIN;0 KOALA;0 POODLE;0 DROMEDARY CAMEL;0 BACTRIAN CAMEL;0 DOLPHIN;0 MOUSE FACE;0 COW ",
    "FACE;0 TIGER FACE;0 RABBIT FACE;0 CAT FACE;0 DRAGON FACE;0 SPOUTING WHALE;0 HORSE FACE;0 ",
    "MONKEY FACE;0 DOG FACE;0 PIG FACE;0 FROG FACE;0 HAMSTER FACE;0 WOLF FACE;0 BEAR FACE;0 ",
    "PANDA FACE;0 PIG NOSE;0 PAW PRINTS;0 CHIPMUNK;0 EYES;0 EYE;0 EAR;0 NOSE;0 MOUTH;0 TONGUE;0 ",
    "WHITE UP POINTING BACKHAND INDEX;1 DOWN POINTING BACKHAND INDEX;1 LEFT POINTING BACKHAND ",
    "INDEX;1 RIGHT POINTING BACKHAND INDEX;0 FISTED HAND SIGN;0 WAVING HAND SIGN;0 OK HAND SIGN;",
    "0 THUMBS UP SIGN;1 DOWN SIGN;0 CLAPPING HANDS SIGN;0 OPEN HANDS SIGN;0 CROWN;0 WOMANS HAT;0 ",
    "EYEGLASSES;0 NECKTIE;0 T-SHIRT;0 JEANS;0 DRESS;0 KIMONO;0 BIKINI;0 WOMANS CLOTHES;0 PURSE;0 ",
    "HANDBAG;0 POUCH;0 MANS SHOE;0 ATHLETIC SHOE;0 HIGH-HEELED SHOE;0 WOMANS SANDAL;1 BOOTS;0 ",
    "FOOTPRINTS;0 BUST IN SILHOUETTE;0 BUSTS IN SILHOUETTE;0 BOY;0 GIRL;0 MAN;0 WOMAN;0 FAMILY;0 ",
    "MAN AND WOMAN HOLDING HANDS;0 TWO MEN HOLDING HANDS;1 WOMEN HOLDING HANDS;0 POLICE OFFICER;",
    "0 WOMAN WITH BUNNY EARS;0 BRIDE WITH VEIL;0 PERSON WITH BLOND HAIR;0 MAN WITH GUA PI MAO;2 ",
    "TURBAN;0 OLDER MAN;1 WOMAN;0 BABY;0 CONSTRUCTION WORKER;0 PRINCESS;0 JAPANESE OGRE;1 GOBLIN;",
    "0 GHOST;0 BABY ANGEL;0 EXTRATERRESTRIAL ALIEN;0 ALIEN MONSTER;0 IMP;0 SKULL;0 INFORMATION ",
    "DESK PERSON;0 GUARDSMAN;0 DANCER;0 LIPSTICK;0 NAIL POLISH;0 FACE MASSAGE;0 HAIRCUT;0 BARBER ",
    "POLE;0 SYRINGE;0 PILL;0 KISS MARK;0 LOVE LETTER;0 RING;0 GEM STONE;0 KISS;0 BOUQUET;0 ",
    "COUPLE WITH HEART;0 WEDDING;0 BEATING HEART;0 BROKEN HEART;0 TWO HEARTS;0 SPARKLING HEART;0 ",
    "GROWING HEART;0 HEART WITH ARROW;0 BLUE HEART;0 GREEN HEART;0 YELLOW HEART;0 PURPLE HEART;0 ",
    "HEART WITH RIBBON;0 REVOLVING HEARTS;0 HEART DECORATION;0 DIAMOND SHAPE WITH A DOT INSIDE;0 ",
    "ELECTRIC LIGHT BULB;0 ANGER SYMBOL;0 BOMB;0 SLEEPING SYMBOL;0 COLLISION SYMBOL;0 SPLASHING ",
    "SWEAT SYMBOL;0 DROPLET;0 DASH SYMBOL;0 PILE OF POO;0 FLEXED BICEPS;0 DIZZY SYMBOL;0 SPEECH ",
    "BALLOON;0 THOUGHT BALLOON;0 WHITE FLOWER;0 HUNDRED POINTS SYMBOL;0 MONEY BAG;0 CURRENCY ",
    "EXCHANGE;0 HEAVY DOLLAR SIGN;0 CREDIT CARD;0 BANKNOTE WITH YEN SIGN;2 DOLLAR SIGN;2 EURO ",
    "SIGN;2 POUND SIGN;0 MONEY WITH WINGS;0 CHART WITH UPWARDS TREND AND YEN SIGN;0 SEAT;0 ",
    "PERSONAL COMPUTER;0 BRIEFCASE;0 MINIDISC;0 FLOPPY DISK;0 OPTICAL DISC;0 DVD;0 FILE FOLDER;0 ",
    "OPEN FILE FOLDER;0 PAGE WITH CURL;1 FACING UP;0 CALENDAR;0 TEAR-OFF CALENDAR;0 CARD INDEX;0 ",
    "CHART WITH UPWARDS TREND;2 DOWNWARDS TREND;0 BAR CHART;0 CLIPBOARD;0 PUSHPIN;0 ROUND ",
    "PUSHPIN;0 PAPERCLIP;0 STRAIGHT RULER;0 TRIANGULAR RULER;0 BOOKMARK TABS;0 LEDGER;0 NOTEBOOK;",
    "1 WITH DECORATIVE COVER;0 CLOSED BOOK;0 OPEN BOOK;0 GREEN BOOK;0 BLUE BOOK;0 ORANGE BOOK;0 ",
    "BOOKS;0 NAME BADGE;0 SCROLL;0 MEMO;0 TELEPHONE RECEIVER;0 PAGER;0 FAX MACHINE;0 SATELLITE ",
    "ANTENNA;0 PUBLIC ADDRESS LOUDSPEAKER;0 CHEERING MEGAPHONE;0 OUTBOX TRAY;0 INBOX TRAY;0 ",
    "PACKAGE;0 E-MAIL SYMBOL;0 INCOMING ENVELOPE;0 ENVELOPE WITH DOWNWARDS ARROW ABOVE;0 CLOSED ",
    "MAILBOX WITH LOWERED FLAG;3 RAISED FLAG;0 OPEN MAILBOX WITH RAISED FLAG;3 LOWERED FLAG;0 ",
    "POSTBOX;0 POSTAL HORN;0 NEWSPAPER;0 MOBILE PHONE;2 WITH RIGHTWARDS ARROW AT LEFT;0 ",
    "VIBRATION MODE;0 MOBILE PHONE OFF;0 NO MOBILE PHONES;0 ANTENNA WITH BARS;0 CAMERA;1 WITH ",
    "FLASH;0 VIDEO CAMERA;0 TELEVISION;0 RADIO;0 VIDEOCASSETTE;0 FILM PROJECTOR;0 PORTABLE ",
    "STEREO;0 PRAYER BEADS;0 TWISTED RIGHTWARDS ARROWS;0 CLOCKWISE RIGHTWARDS AND LEFTWARDS OPEN ",
    "CIRCLE ARROWS;7 WITH CIRCLED ONE OVERLAY;1 DOWNWARDS AND UPWARDS OPEN CIRCLE ARROWS;0 ",
    "ANTICLOCKWISE DOWNWARDS AND UPWARDS OPEN CIRCLE ARROWS;0 LOW BRIGHTNESS SYMBOL;0 HIGH ",
    "BRIGHTNESS SYMBOL;0 SPEAKER WITH CANCELLATION STROKE;1;1 WITH ONE SOUND WAVE;2 THREE SOUND ",
    "WAVES;0 BATTERY;0 ELECTRIC PLUG;0 LEFT-POINTING MAGNIFYING GLASS;0 RIGHT-POINTING ",
    "MAGNIFYING GLASS;0 LOCK WITH INK PEN;0 CLOSED LOCK WITH KEY;0 KEY;0 LOCK;0 OPEN LOCK;0 BELL;",
    "1 WITH CANCELLATION STROKE;0 BOOKMARK;0 LINK SYMBOL;0 RADIO BUTTON;0 BACK WITH LEFTWARDS ",
    "ARROW ABOVE;0 END WITH LEFTWARDS ARROW ABOVE;0 ON WITH EXCLAMATION MARK WITH LEFT RIGHT ",
    "ARROW ABOVE;0 SOON WITH RIGHTWARDS ARROW ABOVE;0 TOP WITH UPWARDS ARROW ABOVE;0 NO ONE ",
    "UNDER EIGHTEEN SYMBOL;0 KEYCAP TEN;0 INPUT SYMBOL FOR LATIN CAPITAL LETTERS;4 SMALL LETTERS;",
    "3 NUMBERS;3 SYMBOLS;3 LATIN LETTERS;0 FIRE;0 ELECTRIC TORCH;0 WRENCH;0 HAMMER;0 NUT AND ",
    "BOLT;0 HOCHO;0 PISTOL;0 MICROSCOPE;0 TELESCOPE;0 CRYSTAL BALL;0 SIX POINTED STAR WITH ",
    "MIDDLE DOT;0 JAPANESE SYMBOL FOR BEGINNER;0 TRIDENT EMBLEM;0 BLACK SQUARE BUTTON;0 WHITE ",
    "SQUARE BUTTON;0 LARGE RED CIRCLE;1 BLUE CIRCLE;1 ORANGE DIAMOND;1 BLUE DIAMOND;0 SMALL ",
    "ORANGE DIAMOND;1 BLUE DIAMOND;0 UP-POINTING RED TRIANGLE;0 DOWN-POINTING RED TRIANGLE;0 ",
    "UP-POINTING SMALL RED TRIANGLE;0 DOWN-POINTING SMALL RED TRIANGLE;0 LOWER RIGHT SHADOWED ",
    "WHITE CIRCLE;0 UPPER RIGHT SHADOWED WHITE CIRCLE;0 CIRCLED CROSS POMMEE;0 CROSS POMMEE WITH ",
    "HALF-CIRCLE BELOW;2;0 NOTCHED LEFT SEMICIRCLE WITH THREE DOTS;1 RIGHT SEMICIRCLE WITH THREE ",
    "DOTS;0 SYMBOL FOR MARKS CHAPTER;0 WHITE LATIN CROSS;0 HEAVY LATIN CROSS;0 CELTIC CROSS;0 OM ",
    "SYMBOL;0 DOVE OF PEACE;0 KAABA;0 MOSQUE;0 SYNAGOGUE;0 MENORAH WITH NINE BRANCHES;0 BOWL OF ",
    "HYGIEIA;0 CLOCK FACE ONE OCLOCK;2 TWO OCLOCK;2 THREE OCLOCK;2 FOUR OCLOCK;2 FIVE OCLOCK;2 ",
    "SIX OCLOCK;2 SEVEN OCLOCK;2 EIGHT OCLOCK;2 NINE OCLOCK;2 TEN OCLOCK;2 ELEVEN OCLOCK;2 ",
    "TWELVE OCLOCK;2 ONE-THIRTY;2 TWO-THIRTY;2 THREE-THIRTY;2 FOUR-THIRTY;2 FIVE-THIRTY;2 ",
    "SIX-THIRTY;2 SEVEN-THIRTY;2 EIGHT-THIRTY;2 NINE-THIRTY;2 TEN-THIRTY;2 ELEVEN-THIRTY;2 ",
    "TWELVE-THIRTY;0 RIGHT SPEAKER;2 WITH ONE SOUND WAVE;3 THREE SOUND WAVES;0 BULLHORN;1 WITH ",
    "SOUND WAVES;0 RINGING BELL;0 BOOK;0 CANDLE;0 MANTELPIECE CLOCK;0 BLACK SKULL AND CROSSBONES;",
    "0 NO PIRACY;0 HOLE;0 MAN IN BUSINESS SUIT LEVITATING;0 SLEUTH OR SPY;0 DARK SUNGLASSES;0 ",
    "SPIDER;1 WEB;0 JOYSTICK;0 MAN DANCING;0 LEFT HAND TELEPHONE RECEIVER;0 TELEPHONE RECEIVER ",
    "WITH PAGE;0 RIGHT HAND TELEPHONE RECEIVER;0 WHITE TOUCHTONE TELEPHONE;0 BLACK TOUCHTONE ",
    "TELEPHONE;0 TELEPHONE ON TOP OF MODEM;0 CLAMSHELL MOBILE PHONE;0 BACK OF ENVELOPE;0 STAMPED ",
    "ENVELOPE;0 ENVELOPE WITH LIGHTNING;0 FLYING ENVELOPE;0 PEN OVER STAMPED ENVELOPE;0 LINKED ",
    "PAPERCLIPS;0 BLACK PUSHPIN;0 LOWER LEFT PENCIL;2 BALLPOINT PEN;2 FOUNTAIN PEN;2 PAINTBRUSH;",
    "2 CRAYON;0 LEFT WRITING HAND;0 TURNED OK HAND SIGN;0 RAISED HAND WITH FINGERS SPLAYED;0 ",
    "REVERSED RAISED HAND WITH FINGERS SPLAYED;1 THUMBS UP SIGN;2 DOWN SIGN;1 VICTORY HAND;1 ",
    "HAND WITH MIDDLE FINGER EXTENDED;0 RAISED HAND WITH PART BETWEEN MIDDLE AND RING FINGERS;0 ",
    "WHITE DOWN POINTING LEFT HAND INDEX;0 SIDEWAYS WHITE LEFT POINTING INDEX;2 RIGHT POINTING ",
    "INDEX;1 BLACK LEFT POINTING INDEX;2 RIGHT POINTING INDEX;0 BLACK LEFT POINTING BACKHAND ",
    "INDEX;1 RIGHT POINTING BACKHAND INDEX;0 SIDEWAYS WHITE UP POINTING INDEX;2 DOWN POINTING ",
    "INDEX;1 BLACK UP POINTING INDEX;2 DOWN POINTING INDEX;0 BLACK UP POINTING BACKHAND INDEX;1 ",
    "DOWN POINTING BACKHAND INDEX;1 HEART;0 DESKTOP COMPUTER;0 KEYBOARD AND MOUSE;0 THREE ",
    "NETWORKED COMPUTERS;0 PRINTER;0 POCKET CALCULATOR;0 BLACK HARD SHELL FLOPPY DISK;0 WHITE ",
    "HARD SHELL FLOPPY DISK;0 SOFT SHELL FLOPPY DISK;0 TAPE CARTRIDGE;0 WIRED KEYBOARD;0 ONE ",
    "BUTTON MOUSE;0 TWO BUTTON MOUSE;0 THREE BUTTON MOUSE;0 TRACKBALL;0 OLD PERSONAL COMPUTER;0 ",
    "HARD DISK;0 SCREEN;0 PRINTER ICON;0 FAX ICON;0 OPTICAL DISC ICON;0 DOCUMENT WITH TEXT;3 AND ",
    "PICTURE;2 PICTURE;0 FRAME WITH PICTURE;2 TILES;2 AN X;0 BLACK FOLDER;0 FOLDER;0 OPEN FOLDER;",
    "0 CARD INDEX DIVIDERS;1 FILE BOX;0 FILE CABINET;0 EMPTY NOTE;2 PAGE;2 PAD;0 NOTE;1 PAGE;1 ",
    "PAD;0 EMPTY DOCUMENT;1 PAGE;1 PAGES;0 DOCUMENT;0 PAGE;0 PAGES;0 WASTEBASKET;0 SPIRAL NOTE ",
    "PAD;1 CALENDAR PAD;0 DESKTOP WINDOW;0 MINIMIZE;0 MAXIMIZE;0 OVERLAP;0 CLOCKWISE RIGHT AND ",
    "LEFT SEMICIRCLE ARROWS;0 CANCELLATION X;0 INCREASE FONT SIZE SYMBOL;0 DECREASE FONT SIZE ",
    "SYMBOL;0 COMPRESSION;0 OLD KEY;0 ROLLED-UP NEWSPAPER;0 PAGE WITH CIRCLED TEXT;0 STOCK CHART;",
    "0 DAGGER KNIFE;0 LIPS;0 SPEAKING HEAD IN SILHOUETTE;0 THREE RAYS ABOVE;2 BELOW;2 LEFT;2 ",
    "RIGHT;0 LEFT SPEECH BUBBLE;0 RIGHT SPEECH BUBBLE;0 TWO SPEECH BUBBLES;0 THREE SPEECH ",
    "BUBBLES;0 LEFT THOUGHT BUBBLE;0 RIGHT THOUGHT BUBBLE;0 LEFT ANGER BUBBLE;0 RIGHT ANGER ",
    "BUBBLE;0 MOOD BUBBLE;0 LIGHTNING MOOD BUBBLE;2;0 BALLOT BOX WITH BALLOT;1 SCRIPT X;1 BOX ",
    "WITH SCRIPT X;1 BOLD SCRIPT X;1 BOX WITH BOLD SCRIPT X;0 LIGHT CHECK MARK;0 BALLOT BOX WITH ",
    "BOLD CHECK;0 WORLD MAP;0 MOUNT FUJI;0 TOKYO TOWER;0 STATUE OF LIBERTY;0 SILHOUETTE OF JAPAN;",
    "0 MOYAI;0 GRINNING FACE;2 WITH SMILING EYES;0 FACE WITH TEARS OF JOY;0 SMILING FACE WITH ",
    "OPEN MOUTH;5 AND SMILING EYES;6 COLD SWEAT;6 TIGHTLY-CLOSED EYES;3 HALO;3 HORNS;0 WINKING ",
    "FACE;0 SMILING FACE WITH SMILING EYES;0 FACE SAVOURING DELICIOUS FOOD;0 RELIEVED FACE;0 ",
    "SMILING FACE WITH HEART-SHAPED EYES;3 SUNGLASSES;0 SMIRKING FACE;0 NEUTRAL FACE;0 ",
    "EXPRESSIONLESS FACE;0 UNAMUSED FACE;0 FACE WITH COLD SWEAT;0 PENSIVE FACE;0 CONFUSED FACE;0 ",
    "CONFOUNDED FACE;0 KISSING FACE;0 FACE THROWING A KISS;0 KISSING FACE WITH SMILING EYES;3 ",
    "CLOSED EYES;0 FACE WITH STUCK-OUT TONGUE;4 AND WINKING EYE;5 TIGHTLY-CLOSED EYES;0 ",
    "DISAPPOINTED FACE;0 WORRIED FACE;0 ANGRY FACE;0 POUTING FACE;0 CRYING FACE;0 PERSEVERING ",
    "FACE;0 FACE WITH LOOK OF TRIUMPH;0 DISAPPOINTED BUT RELIEVED FACE;0 FROWNING FACE WITH OPEN ",
    "MOUTH;0 ANGUISHED FACE;0 FEARFUL FACE;0 WEARY FACE;0 SLEEPY FACE;0 TIRED FACE;0 GRIMACING ",
    "FACE;0 LOUDLY CRYING FACE;0 FACE WITH OPEN MOUTH;0 HUSHED FACE;0 FACE WITH OPEN MOUTH AND ",
    "COLD SWEAT;1 SCREAMING IN FEAR;0 ASTONISHED FACE;0 FLUSHED FACE;0 SLEEPING FACE;0 DIZZY ",
    "FACE;0 FACE WITHOUT MOUTH;1 WITH MEDICAL MASK;0 GRINNING CAT FACE WITH SMILING EYES;0 CAT ",
    "FACE WITH TEARS OF JOY;0 SMILING CAT FACE WITH OPEN MOUTH;4 HEART-SHAPED EYES;0 CAT FACE ",
    "WITH WRY SMILE;0 KISSING CAT FACE WITH CLOSED EYES;0 POUTING CAT FACE;0 CRYING CAT FACE;0 ",
    "WEARY CAT FACE;0 SLIGHTLY FROWNING FACE;1 SMILING FACE;0 UPSIDE-DOWN FACE;0 FACE WITH ",
    "ROLLING EYES;2 NO GOOD GESTURE;2 OK GESTURE;0 PERSON BOWING DEEPLY;0 SEE-NO-EVIL MONKEY;0 ",
    "HEAR-NO-EVIL MONKEY;0 SPEAK-NO-EVIL MONKEY;0 HAPPY PERSON RAISING ONE HAND;0 PERSON RAISING ",
    "BOTH HANDS IN CELEBRATION;1 FROWNING;1 WITH POUTING FACE;2 FOLDED HANDS;0 NORTH WEST ",
    "POINTING LEAF;0 SOUTH WEST POINTING LEAF;0 NORTH EAST POINTING LEAF;0 SOUTH EAST POINTING ",
    "LEAF;0 TURNED NORTH WEST POINTING LEAF;1 SOUTH WEST POINTING LEAF;1 NORTH EAST POINTING ",
    "LEAF;1 SOUTH EAST POINTING LEAF;0 NORTH WEST POINTING VINE LEAF;0 SOUTH WEST POINTING VINE ",
    "LEAF;0 NORTH EAST POINTING VINE LEAF;0 SOUTH EAST POINTING VINE LEAF;0 HEAVY NORTH WEST ",
    "POINTING VINE LEAF;1 SOUTH WEST POINTING VINE LEAF;1 NORTH EAST POINTING VINE LEAF;1 SOUTH ",
    "EAST POINTING VINE LEAF;0 NORTH WEST POINTING BUD;0 SOUTH WEST POINTING BUD;0 NORTH EAST ",
    "POINTING BUD;0 SOUTH EAST POINTING BUD;0 HEAVY NORTH WEST POINTING BUD;1 SOUTH WEST ",
    "POINTING BUD;1 NORTH EAST POINTING BUD;1 SOUTH EAST POINTING BUD;0 HOLLOW QUILT SQUARE ",
    "ORNAMENT;4 IN BLACK SQUARE;0 SOLID QUILT SQUARE ORNAMENT;4 IN BLACK SQUARE;0 LEFTWARDS ",
    "ROCKET;0 UPWARDS ROCKET;0 RIGHTWARDS ROCKET;0 DOWNWARDS ROCKET;0 SCRIPT LIGATURE ET ",
    "ORNAMENT;0 HEAVY SCRIPT LIGATURE ET ORNAMENT;0 LIGATURE OPEN ET ORNAMENT;0 HEAVY LIGATURE ",
    "OPEN ET ORNAMENT;1 AMPERSAND ORNAMENT;0 SWASH AMPERSAND ORNAMENT;0 SANS-SERIF HEAVY DOUBLE ",
    "TURNED COMMA QUOTATION MARK ORNAMENT;3 COMMA QUOTATION MARK ORNAMENT;2 LOW DOUBLE COMMA ",
    "QUOTATION MARK ORNAMENT;0 HEAVY INTERROBANG ORNAMENT;0 SANS-SERIF INTERROBANG ORNAMENT;0 ",
    "HEAVY SANS-SERIF INTERROBANG ORNAMENT;0 VERY HEAVY SOLIDUS;2 REVERSE SOLIDUS;0 CHECKER ",
    "BOARD;0 REVERSE CHECKER BOARD;0 ROCKET;0 HELICOPTER;0 STEAM LOCOMOTIVE;0 RAILWAY CAR;0 ",
    "HIGH-SPEED TRAIN;2 WITH BULLET NOSE;0 TRAIN;0 METRO;0 LIGHT RAIL;0 STATION;0 TRAM;1 CAR;0 ",
    "BUS;0 ONCOMING BUS;0 TROLLEYBUS;0 BUS STOP;0 MINIBUS;0 AMBULANCE;0 FIRE ENGINE;0 POLICE CAR;",
    "0 ONCOMING POLICE CAR;0 TAXI;0 ONCOMING TAXI;0 AUTOMOBILE;0 ONCOMING AUTOMOBILE;0 ",
    "RECREATIONAL VEHICLE;0 DELIVERY TRUCK;0 ARTICULATED LORRY;0 TRACTOR;0 MONORAIL;0 MOUNTAIN ",
    "RAILWAY;0 SUSPENSION RAILWAY;0 MOUNTAIN CABLEWAY;0 AERIAL TRAMWAY;0 SHIP;0 ROWBOAT;0 ",
    "SPEEDBOAT;0 HORIZONTAL TRAFFIC LIGHT;0 VERTICAL TRAFFIC LIGHT;0 CONSTRUCTION SIGN;0 POLICE ",
    "CARS REVOLVING LIGHT;0 TRIANGULAR FLAG ON POST;0 DOOR;0 NO ENTRY SIGN;0 SMOKING SYMBOL;0 NO ",
    "SMOKING SYMBOL;0 PUT LITTER IN ITS PLACE SYMBOL;0 DO NOT LITTER SYMBOL;0 POTABLE WATER ",
    "SYMBOL;0 NON-POTABLE WATER SYMBOL;0 BICYCLE;0 NO BICYCLES;0 BICYCLIST;0 MOUNTAIN BICYCLIST;",
    "0 PEDESTRIAN;0 NO PEDESTRIANS;0 CHILDREN CROSSING;0 MENS SYMBOL;0 WOMENS SYMBOL;0 RESTROOM;",
    "0 BABY SYMBOL;0 TOILET;0 WATER CLOSET;0 SHOWER;0 BATH;0 BATHTUB;0 PASSPORT CONTROL;0 ",
    "CUSTOMS;0 BAGGAGE CLAIM;0 LEFT LUGGAGE;0 TRIANGLE WITH ROUNDED CORNERS;0 PROHIBITED SIGN;0 ",
    "CIRCLED INFORMATION SOURCE;0 BOYS SYMBOL;0 GIRLS SYMBOL;0 COUCH AND LAMP;0 SLEEPING ",
    "ACCOMMODATION;0 SHOPPING BAGS;0 BELLHOP BELL;0 BED;0 PLACE OF WORSHIP;0 OCTAGONAL SIGN;0 ",
    "SHOPPING TROLLEY;0 STUPA;0 PAGODA;0 HINDU TEMPLE;0 HUT;0 ELEVATOR;1F6DD=0 PLAYGROUND SLIDE;",
    "0 WHEEL;0 RING BUOY;0 HAMMER AND WRENCH;0 SHIELD;0 OIL DRUM;0 MOTORWAY;0 RAILWAY TRACK;0 ",
    "MOTOR BOAT;0 UP-POINTING MILITARY AIRPLANE;1 AIRPLANE;1 SMALL AIRPLANE;0 SMALL AIRPLANE;0 ",
    "NORTHEAST-POINTING AIRPLANE;0 AIRPLANE DEPARTURE;1 ARRIVING;1F6F0=0 SATELLITE;0 ONCOMING ",
    "FIRE ENGINE;0 DIESEL LOCOMOTIVE;0 PASSENGER SHIP;0 SCOOTER;0 MOTOR SCOOTER;0 CANOE;0 SLED;0 ",
    "FLYING SAUCER;0 SKATEBOARD;0 AUTO RICKSHAW;0 PICKUP TRUCK;0 ROLLER SKATE;1F700=0 ALCHEMICAL ",
    "SYMBOL FOR QUINTESSENCE;3 AIR;3 FIRE;3 EARTH;3 WATER;3 AQUAFORTIS;3 AQUA REGIA;4 REGIA-2;4 ",
    "VITAE;4 VITAE-2;3 VINEGAR;3 VINEGAR-2;3 VINEGAR-3;3 SULFUR;3 PHILOSOPHERS SULFUR;3 BLACK ",
    "SULFUR;3 MERCURY SUBLIMATE;4 SUBLIMATE-2;4 SUBLIMATE-3;3 CINNABAR;3 SALT;3 NITRE;3 VITRIOL;",
    "3 VITRIOL-2;3 ROCK SALT;4 SALT-2;3 GOLD;3 SILVER;3 IRON ORE;4 ORE-2;3 CROCUS OF IRON;3 ",
    "REGULUS OF IRON;3 COPPER ORE;3 IRON-COPPER ORE;3 SUBLIMATE OF COPPER;3 CROCUS OF COPPER;5 ",
    "COPPER-2;3 COPPER ANTIMONIATE;3 SALT OF COPPER ANTIMONIATE;3 SUBLIMATE OF SALT OF COPPER;3 ",
    "VERDIGRIS;3 TIN ORE;3 LEAD ORE;3 ANTIMONY ORE;3 SUBLIMATE OF ANTIMONY;3 SALT OF ANTIMONY;3 ",
    "SUBLIMATE OF SALT OF ANTIMONY;3 VINEGAR OF ANTIMONY;3 REGULUS OF ANTIMONY;5 ANTIMONY-2;4;3 ",
    "REGULUS-2;3 REGULUS-3;3 REGULUS-4;3 ALKALI;3 ALKALI-2;3 MARCASITE;3 SAL-AMMONIAC;3 ARSENIC;",
    "3 REALGAR;3 REALGAR-2;3 AURIPIGMENT;3 BISMUTH ORE;3 TARTAR;3 TARTAR-2;3 QUICK LIME;3 BORAX;",
    "3 BORAX-2;3 BORAX-3;3 ALUM;3 OIL;3 SPIRIT;3 TINCTURE;3 GUM;3 WAX;3 POWDER;3 CALX;3 TUTTY;3 ",
    "CAPUT MORTUUM;3 SCEPTER OF JOVE;3 CADUCEUS;3 TRIDENT;3 STARRED TRIDENT;3 LODESTONE;3 SOAP;3 ",
    "URINE;3 HORSE DUNG;3 ASHES;3 POT ASHES;3 BRICK;3 POWDERED BRICK;3 AMALGAM;3 STRATUM SUPER ",
    "STRATUM;5 STRATUM-2;3 SUBLIMATION;3 PRECIPITATE;3 DISTILL;3 DISSOLVE;3 DISSOLVE-2;3 PURIFY;",
    "3 PUTREFACTION;3 CRUCIBLE;3 CRUCIBLE-2;3 CRUCIBLE-3;3 CRUCIBLE-4;3 CRUCIBLE-5;3 ALEMBIC;3 ",
    "BATH OF MARY;5 VAPOURS;3 RETORT;3 HOUR;3 NIGHT;3 DAY-NIGHT;3 MONTH;3 HALF DRAM;4 OUNCE;",
    "1F780=0 BLACK LEFT-POINTING ISOSCELES RIGHT TRIANGLE;1 UP-POINTING ISOSCELES RIGHT TRIANGLE;",
    "1 RIGHT-POINTING ISOSCELES RIGHT TRIANGLE;1 DOWN-POINTING ISOSCELES RIGHT TRIANGLE;1 ",
    "SLIGHTLY SMALL CIRCLE;0 MEDIUM BOLD WHITE CIRCLE;0 BOLD WHITE CIRCLE;0 HEAVY WHITE CIRCLE;0 ",
    "VERY HEAVY WHITE CIRCLE;0 EXTREMELY HEAVY WHITE CIRCLE;0 WHITE CIRCLE CONTAINING BLACK ",
    "SMALL CIRCLE;0 ROUND TARGET;0 BLACK TINY SQUARE;1 SLIGHTLY SMALL SQUARE;0 LIGHT WHITE ",
    "SQUARE;0 MEDIUM WHITE SQUARE;0 BOLD WHITE SQUARE;0 HEAVY WHITE SQUARE;0 VERY HEAVY WHITE ",
    "SQUARE;0 EXTREMELY HEAVY WHITE SQUARE;0 WHITE SQUARE CONTAINING BLACK VERY SMALL SQUARE;4 ",
    "MEDIUM SQUARE;0 SQUARE TARGET;0 BLACK TINY DIAMOND;1 VERY SMALL DIAMOND;1 MEDIUM SMALL ",
    "DIAMOND;0 WHITE DIAMOND CONTAINING BLACK VERY SMALL DIAMOND;4 MEDIUM DIAMOND;0 DIAMOND ",
    "TARGET;0 BLACK TINY LOZENGE;1 VERY SMALL LOZENGE;1 MEDIUM SMALL LOZENGE;0 WHITE LOZENGE ",
    "CONTAINING BLACK SMALL LOZENGE;0 THIN GREEK CROSS;0 LIGHT GREEK CROSS;0 MEDIUM GREEK CROSS;",
    "0 BOLD GREEK CROSS;0 VERY BOLD GREEK CROSS;1 HEAVY GREEK CROSS;0 EXTREMELY HEAVY GREEK ",
    "CROSS;0 THIN SALTIRE;0 LIGHT SALTIRE;0 MEDIUM SALTIRE;0 BOLD SALTIRE;0 HEAVY SALTIRE;0 VERY ",
    "HEAVY SALTIRE;0 EXTREMELY HEAVY SALTIRE;0 LIGHT FIVE SPOKED ASTERISK;0 MEDIUM FIVE SPOKED ",
    "ASTERISK;0 BOLD FIVE SPOKED ASTERISK;0 HEAVY FIVE SPOKED ASTERISK;0 VERY HEAVY FIVE SPOKED ",
    "ASTERISK;0 EXTREMELY HEAVY FIVE SPOKED ASTERISK;0 LIGHT SIX SPOKED ASTERISK;0 MEDIUM SIX ",
    "SPOKED ASTERISK;0 BOLD SIX SPOKED ASTERISK;0 HEAVY SIX SPOKED ASTERISK;0 VERY HEAVY SIX ",
    "SPOKED ASTERISK;0 EXTREMELY HEAVY SIX SPOKED ASTERISK;0 LIGHT EIGHT SPOKED ASTERISK;0 ",
    "MEDIUM EIGHT SPOKED ASTERISK;0 BOLD EIGHT SPOKED ASTERISK;0 HEAVY EIGHT SPOKED ASTERISK;0 ",
    "VERY HEAVY EIGHT SPOKED ASTERISK;0 LIGHT THREE POINTED BLACK STAR;0 MEDIUM THREE POINTED ",
    "BLACK STAR;0 THREE POINTED BLACK STAR;0 MEDIUM THREE POINTED PINWHEEL STAR;0 LIGHT FOUR ",
    "POINTED BLACK STAR;0 MEDIUM FOUR POINTED BLACK STAR;0 FOUR POINTED BLACK STAR;0 MEDIUM FOUR ",
    "POINTED PINWHEEL STAR;0 REVERSE LIGHT FOUR POINTED PINWHEEL STAR;0 LIGHT FIVE POINTED BLACK ",
    "STAR;0 HEAVY FIVE POINTED BLACK STAR;0 MEDIUM SIX POINTED BLACK STAR;0 HEAVY SIX POINTED ",
    "BLACK STAR;0 SIX POINTED PINWHEEL STAR;0 MEDIUM EIGHT POINTED BLACK STAR;0 HEAVY EIGHT ",
    "POINTED BLACK STAR;0 VERY HEAVY EIGHT POINTED BLACK STAR;0 HEAVY EIGHT POINTED PINWHEEL ",
    "STAR;0 LIGHT TWELVE POINTED BLACK STAR;0 HEAVY TWELVE POINTED BLACK STAR;3 PINWHEEL STAR;0 ",
    "CIRCLED TRIANGLE;0 NEGATIVE CIRCLED TRIANGLE;0 CIRCLED SQUARE;0 NEGATIVE CIRCLED SQUARE;",
    "1F7E0=0 LARGE ORANGE CIRCLE;1 YELLOW CIRCLE;1 GREEN CIRCLE;1 PURPLE CIRCLE;1 BROWN CIRCLE;1 ",
    "RED SQUARE;1 BLUE SQUARE;1 ORANGE SQUARE;1 YELLOW SQUARE;1 GREEN SQUARE;1 PURPLE SQUARE;1 ",
    "BROWN SQUARE;1F7F0=0 HEAVY EQUALS SIGN;1F800=0 LEFTWARDS ARROW WITH SMALL TRIANGLE ",
    "ARROWHEAD;0 UPWARDS ARROW WITH SMALL TRIANGLE ARROWHEAD;0 RIGHTWARDS ARROW WITH SMALL ",
    "TRIANGLE ARROWHEAD;0 DOWNWARDS ARROW WITH SMALL TRIANGLE ARROWHEAD;0 LEFTWARDS ARROW WITH ",
    "MEDIUM TRIANGLE ARROWHEAD;0 UPWARDS ARROW WITH MEDIUM TRIANGLE ARROWHEAD;0 RIGHTWARDS ARROW ",
    "WITH MEDIUM TRIANGLE ARROWHEAD;0 DOWNWARDS ARROW WITH MEDIUM TRIANGLE ARROWHEAD;0 LEFTWARDS ",
    "ARROW WITH LARGE TRIANGLE ARROWHEAD;0 UPWARDS ARROW WITH LARGE TRIANGLE ARROWHEAD;0 ",
    "RIGHTWARDS ARROW WITH LARGE TRIANGLE ARROWHEAD;0 DOWNWARDS ARROW WITH LARGE TRIANGLE ",
    "ARROWHEAD;1F810=0 LEFTWARDS ARROW WITH SMALL EQUILATERAL ARROWHEAD;0 UPWARDS ARROW WITH ",
    "SMALL EQUILATERAL ARROWHEAD;0 RIGHTWARDS ARROW WITH SMALL EQUILATERAL ARROWHEAD;0 DOWNWARDS ",
    "ARROW WITH SMALL EQUILATERAL ARROWHEAD;0 LEFTWARDS ARROW WITH EQUILATERAL ARROWHEAD;0 ",
    "UPWARDS ARROW WITH EQUILATERAL ARROWHEAD;0 RIGHTWARDS ARROW WITH EQUILATERAL ARROWHEAD;0 ",
    "DOWNWARDS ARROW WITH EQUILATERAL ARROWHEAD;0 HEAVY LEFTWARDS ARROW WITH EQUILATERAL ",
    "ARROWHEAD;1 UPWARDS ARROW WITH EQUILATERAL ARROWHEAD;1 RIGHTWARDS ARROW WITH EQUILATERAL ",
    "ARROWHEAD;1 DOWNWARDS ARROW WITH EQUILATERAL ARROWHEAD;1 LEFTWARDS ARROW WITH LARGE ",
    "EQUILATERAL ARROWHEAD;1 UPWARDS ARROW WITH LARGE EQUILATERAL ARROWHEAD;1 RIGHTWARDS ARROW ",
    "WITH LARGE EQUILATERAL ARROWHEAD;1 DOWNWARDS ARROW WITH LARGE EQUILATERAL ARROWHEAD;0 ",
    "LEFTWARDS TRIANGLE-HEADED ARROW WITH NARROW SHAFT;0 UPWARDS TRIANGLE-HEADED ARROW WITH ",
    "NARROW SHAFT;0 RIGHTWARDS TRIANGLE-HEADED ARROW WITH NARROW SHAFT;0 DOWNWARDS ",
    "TRIANGLE-HEADED ARROW WITH NARROW SHAFT;0 LEFTWARDS TRIANGLE-HEADED ARROW WITH MEDIUM SHAFT;",
    "0 UPWARDS TRIANGLE-HEADED ARROW WITH MEDIUM SHAFT;0 RIGHTWARDS TRIANGLE-HEADED ARROW WITH ",
    "MEDIUM SHAFT;0 DOWNWARDS TRIANGLE-HEADED ARROW WITH MEDIUM SHAFT;0 LEFTWARDS ",
    "TRIANGLE-HEADED ARROW WITH BOLD SHAFT;0 UPWARDS TRIANGLE-HEADED ARROW WITH BOLD SHAFT;0 ",
    "RIGHTWARDS TRIANGLE-HEADED ARROW WITH BOLD SHAFT;0 DOWNWARDS TRIANGLE-HEADED ARROW WITH ",
    "BOLD SHAFT;0 LEFTWARDS TRIANGLE-HEADED ARROW WITH HEAVY SHAFT;0 UPWARDS TRIANGLE-HEADED ",
    "ARROW WITH HEAVY SHAFT;0 RIGHTWARDS TRIANGLE-HEADED ARROW WITH HEAVY SHAFT;0 DOWNWARDS ",
    "TRIANGLE-HEADED ARROW WITH HEAVY SHAFT;0 LEFTWARDS TRIANGLE-HEADED ARROW WITH VERY HEAVY ",
    "SHAFT;0 UPWARDS TRIANGLE-HEADED ARROW WITH VERY HEAVY SHAFT;0 RIGHTWARDS TRIANGLE-HEADED ",
    "ARROW WITH VERY HEAVY SHAFT;0 DOWNWARDS TRIANGLE-HEADED ARROW WITH VERY HEAVY SHAFT;0 ",
    "LEFTWARDS FINGER-POST ARROW;0 UPWARDS FINGER-POST ARROW;0 RIGHTWARDS FINGER-POST ARROW;0 ",
    "DOWNWARDS FINGER-POST ARROW;0 LEFTWARDS SQUARED ARROW;0 UPWARDS SQUARED ARROW;0 RIGHTWARDS ",
    "SQUARED ARROW;0 DOWNWARDS SQUARED ARROW;0 LEFTWARDS COMPRESSED ARROW;0 UPWARDS COMPRESSED ",
    "ARROW;0 RIGHTWARDS COMPRESSED ARROW;0 DOWNWARDS COMPRESSED ARROW;0 LEFTWARDS HEAVY ",
    "COMPRESSED ARROW;0 UPWARDS HEAVY COMPRESSED ARROW;0 RIGHTWARDS HEAVY COMPRESSED ARROW;0 ",
    "DOWNWARDS HEAVY COMPRESSED ARROW;0 LEFTWARDS HEAVY ARROW;0 UPWARDS HEAVY ARROW;0 RIGHTWARDS ",
    "HEAVY ARROW;0 DOWNWARDS HEAVY ARROW;1F850=0 LEFTWARDS SANS-SERIF ARROW;0 UPWARDS SANS-SERIF ",
    "ARROW;0 RIGHTWARDS SANS-SERIF ARROW;0 DOWNWARDS SANS-SERIF ARROW;0 NORTH WEST SANS-SERIF ",
    "ARROW;1 EAST SANS-SERIF ARROW;0 SOUTH EAST SANS-SERIF ARROW;1 WEST SANS-SERIF ARROW;0 LEFT ",
    "RIGHT SANS-SERIF ARROW;0 UP DOWN SANS-SERIF ARROW;1F860=0 WIDE-HEADED LEFTWARDS LIGHT BARB ",
    "ARROW;1 UPWARDS LIGHT BARB ARROW;1 RIGHTWARDS LIGHT BARB ARROW;1 DOWNWARDS LIGHT BARB ARROW;",
    "1 NORTH WEST LIGHT BARB ARROW;2 EAST LIGHT BARB ARROW;1 SOUTH EAST LIGHT BARB ARROW;2 WEST ",
    "LIGHT BARB ARROW;1 LEFTWARDS BARB ARROW;1 UPWARDS BARB ARROW;1 RIGHTWARDS BARB ARROW;1 ",
    "DOWNWARDS BARB ARROW;1 NORTH WEST BARB ARROW;2 EAST BARB ARROW;1 SOUTH EAST BARB ARROW;2 ",
    "WEST BARB ARROW;1 LEFTWARDS MEDIUM BARB ARROW;1 UPWARDS MEDIUM BARB ARROW;1 RIGHTWARDS ",
    "MEDIUM BARB ARROW;1 DOWNWARDS MEDIUM BARB ARROW;1 NORTH WEST MEDIUM BARB ARROW;2 EAST ",
    "MEDIUM BARB ARROW;1 SOUTH EAST MEDIUM BARB ARROW;2 WEST MEDIUM BARB ARROW;1 LEFTWARDS HEAVY ",
    "BARB ARROW;1 UPWARDS HEAVY BARB ARROW;1 RIGHTWARDS HEAVY BARB ARROW;1 DOWNWARDS HEAVY BARB ",
    "ARROW;1 NORTH WEST HEAVY BARB ARROW;2 EAST HEAVY BARB ARROW;1 SOUTH EAST HEAVY BARB ARROW;2 ",
    "WEST HEAVY BARB ARROW;1 LEFTWARDS VERY HEAVY BARB ARROW;1 UPWARDS VERY HEAVY BARB ARROW;1 ",
    "RIGHTWARDS VERY HEAVY BARB ARROW;1 DOWNWARDS VERY HEAVY BARB ARROW;1 NORTH WEST VERY HEAVY ",
    "BARB ARROW;2 EAST VERY HEAVY BARB ARROW;1 SOUTH EAST VERY HEAVY BARB ARROW;2 WEST VERY ",
    "HEAVY BARB ARROW;1F890=0 LEFTWARDS TRIANGLE ARROWHEAD;0 UPWARDS TRIANGLE ARROWHEAD;0 ",
    "RIGHTWARDS TRIANGLE ARROWHEAD;0 DOWNWARDS TRIANGLE ARROWHEAD;0 LEFTWARDS WHITE ARROW WITHIN ",
    "TRIANGLE ARROWHEAD;0 UPWARDS WHITE ARROW WITHIN TRIANGLE ARROWHEAD;0 RIGHTWARDS WHITE ARROW ",
    "WITHIN TRIANGLE ARROWHEAD;0 DOWNWARDS WHITE ARROW WITHIN TRIANGLE ARROWHEAD;0 LEFTWARDS ",
    "ARROW WITH NOTCHED TAIL;0 UPWARDS ARROW WITH NOTCHED TAIL;0 RIGHTWARDS ARROW WITH NOTCHED ",
    "TAIL;0 DOWNWARDS ARROW WITH NOTCHED TAIL;0 HEAVY ARROW SHAFT WIDTH ONE;4 TWO THIRDS;4 ONE ",
    "HALF;5 THIRD;0 LEFTWARDS BOTTOM-SHADED WHITE ARROW;0 RIGHTWARDS BOTTOM SHADED WHITE ARROW;0 ",
    "LEFTWARDS TOP SHADED WHITE ARROW;0 RIGHTWARDS TOP SHADED WHITE ARROW;0 LEFTWARDS ",
    "LEFT-SHADED WHITE ARROW;0 RIGHTWARDS RIGHT-SHADED WHITE ARROW;0 LEFTWARDS RIGHT-SHADED ",
    "WHITE ARROW;0 RIGHTWARDS LEFT-SHADED WHITE ARROW;0 LEFTWARDS BACK-TILTED SHADOWED WHITE ",
    "ARROW;0 RIGHTWARDS BACK-TILTED SHADOWED WHITE ARROW;0 LEFTWARDS FRONT-TILTED SHADOWED WHITE ",
    "ARROW;0 RIGHTWARDS FRONT-TILTED SHADOWED WHITE ARROW;0 WHITE ARROW SHAFT WIDTH ONE;4 TWO ",
    "THIRDS;1F8B0=0 ARROW POINTING UPWARDS THEN NORTH WEST;2 RIGHTWARDS THEN CURVING SOUTH WEST;",
    "1F900=0 CIRCLED CROSS FORMEE WITH FOUR DOTS;4 TWO DOTS;3;0 LEFT HALF CIRCLE WITH FOUR DOTS;",
    "4 THREE DOTS;4 TWO DOTS;4 DOT;3;0 DOWNWARD FACING HOOK;2 NOTCHED HOOK;2 HOOK WITH DOT;2 ",
    "NOTCHED HOOK WITH DOT;0 PINCHED FINGERS;0 WHITE HEART;0 BROWN HEART;0 PINCHING HAND;0 ",
    "ZIPPER-MOUTH FACE;0 MONEY-MOUTH FACE;0 FACE WITH THERMOMETER;0 NERD FACE;0 THINKING FACE;0 ",
    "FACE WITH HEAD-BANDAGE;0 ROBOT FACE;0 HUGGING FACE;0 SIGN OF THE HORNS;0 CALL ME HAND;0 ",
    "RAISED BACK OF HAND;0 LEFT-FACING FIST;0 RIGHT-FACING FIST;0 HANDSHAKE;0 HAND WITH INDEX ",
    "AND MIDDLE FINGERS CROSSED;0 I LOVE YOU HAND SIGN;0 FACE WITH COWBOY HAT;0 CLOWN FACE;0 ",
    "NAUSEATED FACE;0 ROLLING ON THE FLOOR LAUGHING;0 DROOLING FACE;0 LYING FACE;0 FACE PALM;0 ",
    "SNEEZING FACE;0 FACE WITH ONE EYEBROW RAISED;0 GRINNING FACE WITH STAR EYES;3 ONE LARGE AND ",
    "ONE SMALL EYE;0 FACE WITH FINGER COVERING CLOSED LIPS;0 SERIOUS FACE WITH SYMBOLS COVERING ",
    "MOUTH;0 SMILING FACE WITH SMILING EYES AND HAND COVERING MOUTH;0 FACE WITH OPEN MOUTH ",
    "VOMITING;0 SHOCKED FACE WITH EXPLODING HEAD;0 PREGNANT WOMAN;0 BREAST-FEEDING;0 PALMS UP ",
    "TOGETHER;0 SELFIE;0 PRINCE;0 MAN IN TUXEDO;0 MOTHER CHRISTMAS;0 SHRUG;0 PERSON DOING ",
    "CARTWHEEL;0 JUGGLING;0 FENCER;0 MODERN PENTATHLON;0 WRESTLERS;0 WATER POLO;0 HANDBALL;0 ",
    "DIVING MASK;0 WILTED FLOWER;0 DRUM WITH DRUMSTICKS;0 CLINKING GLASSES;0 TUMBLER GLASS;0 ",
    "SPOON;0 GOAL NET;0 RIFLE;0 FIRST PLACE MEDAL;0 SECOND PLACE MEDAL;0 THIRD PLACE MEDAL;0 ",
    "BOXING GLOVE;0 MARTIAL ARTS UNIFORM;0 CURLING STONE;0 LACROSSE STICK AND BALL;0 SOFTBALL;0 ",
    "FLYING DISC;0 CROISSANT;0 AVOCADO;0 CUCUMBER;0 BACON;0 POTATO;0 CARROT;0 BAGUETTE BREAD;0 ",
    "GREEN SALAD;0 SHALLOW PAN OF FOOD;0 STUFFED FLATBREAD;0 EGG;0 GLASS OF MILK;0 PEANUTS;0 ",
    "KIWIFRUIT;0 PANCAKES;0 DUMPLING;0 FORTUNE COOKIE;0 TAKEOUT BOX;0 CHOPSTICKS;0 BOWL WITH ",
    "SPOON;0 CUP WITH STRAW;0 COCONUT;0 BROCCOLI;0 PIE;0 PRETZEL;0 CUT OF MEAT;0 SANDWICH;0 ",
    "CANNED FOOD;0 LEAFY GREEN;0 MANGO;0 MOON CAKE;0 BAGEL;0 SMILING FACE WITH SMILING EYES AND ",
    "THREE HEARTS;0 YAWNING FACE;0 SMILING FACE WITH TEAR;0 FACE WITH PARTY HORN AND PARTY HAT;2 ",
    "UNEVEN EYES AND WAVY MOUTH;0 OVERHEATED FACE;0 FREEZING FACE;0 NINJA;0 DISGUISED FACE;0 ",
    "FACE HOLDING BACK TEARS;1 WITH PLEADING EYES;0 SARI;0 LAB COAT;0 GOGGLES;0 HIKING BOOT;0 ",
    "FLAT SHOE;0 CRAB;0 LION FACE;0 SCORPION;0 TURKEY;0 UNICORN FACE;0 EAGLE;0 DUCK;0 BAT;0 ",
    "SHARK;0 OWL;0 FOX FACE;0 BUTTERFLY;0 DEER;0 GORILLA;0 LIZARD;0 RHINOCEROS;0 SHRIMP;0 SQUID;",
    "0 GIRAFFE FACE;0 ZEBRA FACE;0 HEDGEHOG;0 SAUROPOD;0 T-REX;0 CRICKET;0 KANGAROO;0 LLAMA;0 ",
    "PEACOCK;0 HIPPOPOTAMUS;0 PARROT;0 RACCOON;0 LOBSTER;0 MOSQUITO;0 MICROBE;0 BADGER;0 SWAN;0 ",
    "MAMMOTH;0 DODO;0 SLOTH;0 OTTER;0 ORANGUTAN;0 SKUNK;0 FLAMINGO;0 OYSTER;0 BEAVER;0 BISON;0 ",
    "SEAL;0 GUIDE DOG;0 PROBING CANE;0 EMOJI COMPONENT RED HAIR;2 CURLY HAIR;2 BALD;2 WHITE HAIR;",
    "0 BONE;0 LEG;0 FOOT;0 TOOTH;0 SUPERHERO;0 SUPERVILLAIN;0 SAFETY VEST;0 EAR WITH HEARING AID;",
    "0 MOTORIZED WHEELCHAIR;0 MANUAL WHEELCHAIR;0 MECHANICAL ARM;1 LEG;0 CHEESE WEDGE;0 CUPCAKE;",
    "0 SALT SHAKER;0 BEVERAGE BOX;0 GARLIC;0 ONION;0 FALAFEL;0 WAFFLE;0 BUTTER;0 MATE DRINK;0 ",
    "ICE CUBE;0 BUBBLE TEA;0 TROLL;0 STANDING PERSON;0 KNEELING PERSON;0 DEAF PERSON;0 FACE WITH ",
    "MONOCLE;0 ADULT;0 CHILD;0 OLDER ADULT;0 BEARDED PERSON;0 PERSON WITH HEADSCARF;1 IN STEAMY ",
    "ROOM;1 CLIMBING;1 IN LOTUS POSITION;0 MAGE;0 FAIRY;0 VAMPIRE;0 MERPERSON;0 ELF;0 GENIE;0 ",
    "ZOMBIE;0 BRAIN;0 ORANGE HEART;0 BILLED CAP;0 SCARF;0 GLOVES;0 COAT;0 SOCKS;0 RED GIFT ",
    "ENVELOPE;0 FIRECRACKER;0 JIGSAW PUZZLE PIECE;0 TEST TUBE;0 PETRI DISH;0 DNA DOUBLE HELIX;0 ",
    "COMPASS;0 ABACUS;0 FIRE EXTINGUISHER;0 TOOLBOX;0 BRICK;0 MAGNET;0 LUGGAGE;0 LOTION BOTTLE;0 ",
    "SPOOL OF THREAD;0 BALL OF YARN;0 SAFETY PIN;0 TEDDY BEAR;0 BROOM;0 BASKET;0 ROLL OF PAPER;0 ",
    "BAR OF SOAP;0 SPONGE;0 RECEIPT;0 NAZAR AMULET;0 NEUTRAL CHESS KING;2 QUEEN;2 ROOK;2 BISHOP;",
    "2 KNIGHT;2 PAWN;0 WHITE CHESS KNIGHT ROTATED FORTY-FIVE DEGREES;0 BLACK CHESS KNIGHT ",
    "ROTATED FORTY-FIVE DEGREES;0 NEUTRAL CHESS KNIGHT ROTATED FORTY-FIVE DEGREES;0 WHITE CHESS ",
    "KING ROTATED NINETY DEGREES;2 QUEEN ROTATED NINETY DEGREES;2 ROOK ROTATED NINETY DEGREES;2 ",
    "BISHOP ROTATED NINETY DEGREES;2 KNIGHT ROTATED NINETY DEGREES;2 PAWN ROTATED NINETY DEGREES;",
    "0 BLACK CHESS KING ROTATED NINETY DEGREES;2 QUEEN ROTATED NINETY DEGREES;2 ROOK ROTATED ",
    "NINETY DEGREES;2 BISHOP ROTATED NINETY DEGREES;2 KNIGHT ROTATED NINETY DEGREES;2 PAWN ",
    "ROTATED NINETY DEGREES;0 NEUTRAL CHESS KING ROTATED NINETY DEGREES;2 QUEEN ROTATED NINETY ",
    "DEGREES;2 ROOK ROTATED NINETY DEGREES;2 BISHOP ROTATED NINETY DEGREES;2 KNIGHT ROTATED ",
    "NINETY DEGREES;2 PAWN ROTATED NINETY DEGREES;0 WHITE CHESS KNIGHT ROTATED ONE HUNDRED ",
    "THIRTY-FIVE DEGREES;0 BLACK CHESS KNIGHT ROTATED ONE HUNDRED THIRTY-FIVE DEGREES;0 NEUTRAL ",
    "CHESS KNIGHT ROTATED ONE HUNDRED THIRTY-FIVE DEGREES;0 WHITE CHESS TURNED KING;3 QUEEN;3 ",
    "ROOK;3 BISHOP;3 KNIGHT;3 PAWN;0 BLACK CHESS TURNED KING;3 QUEEN;3 ROOK;3 BISHOP;3 KNIGHT;3 ",
    "PAWN;0 NEUTRAL CHESS TURNED KING;3 QUEEN;3 ROOK;3 BISHOP;3 KNIGHT;3 PAWN;0 WHITE CHESS ",
    "KNIGHT ROTATED TWO HUNDRED TWENTY-FIVE DEGREES;0 BLACK CHESS KNIGHT ROTATED TWO HUNDRED ",
    "TWENTY-FIVE DEGREES;0 NEUTRAL CHESS KNIGHT ROTATED TWO HUNDRED TWENTY-FIVE DEGREES;0 WHITE ",
    "CHESS KING ROTATED TWO HUNDRED SEVENTY DEGREES;2 QUEEN ROTATED TWO HUNDRED SEVENTY DEGREES;",
    "2 ROOK ROTATED TWO HUNDRED SEVENTY DEGREES;2 BISHOP ROTATED TWO HUNDRED SEVENTY DEGREES;2 ",
    "KNIGHT ROTATED TWO HUNDRED SEVENTY DEGREES;2 PAWN ROTATED TWO HUNDRED SEVENTY DEGREES;0 ",
    "BLACK CHESS KING ROTATED TWO HUNDRED SEVENTY DEGREES;2 QUEEN ROTATED TWO HUNDRED SEVENTY ",
    "DEGREES;2 ROOK ROTATED TWO HUNDRED SEVENTY DEGREES;2 BISHOP ROTATED TWO HUNDRED SEVENTY ",
    "DEGREES;2 KNIGHT ROTATED TWO HUNDRED SEVENTY DEGREES;2 PAWN ROTATED TWO HUNDRED SEVENTY ",
    "DEGREES;0 NEUTRAL CHESS KING ROTATED TWO HUNDRED SEVENTY DEGREES;2 QUEEN ROTATED TWO ",
    "HUNDRED SEVENTY DEGREES;2 ROOK ROTATED TWO HUNDRED SEVENTY DEGREES;2 BISHOP ROTATED TWO ",
    "HUNDRED SEVENTY DEGREES;2 KNIGHT ROTATED TWO HUNDRED SEVENTY DEGREES;2 PAWN ROTATED TWO ",
    "HUNDRED SEVENTY DEGREES;0 WHITE CHESS KNIGHT ROTATED THREE HUNDRED FIFTEEN DEGREES;0 BLACK ",
    "CHESS KNIGHT ROTATED THREE HUNDRED FIFTEEN DEGREES;0 NEUTRAL CHESS KNIGHT ROTATED THREE ",
    "HUNDRED FIFTEEN DEGREES;0 WHITE CHESS EQUIHOPPER;0 BLACK CHESS EQUIHOPPER;0 NEUTRAL CHESS ",
    "EQUIHOPPER;0 WHITE CHESS EQUIHOPPER ROTATED NINETY DEGREES;0 BLACK CHESS EQUIHOPPER ROTATED ",
    "NINETY DEGREES;0 NEUTRAL CHESS EQUIHOPPER ROTATED NINETY DEGREES;0 WHITE CHESS KNIGHT-QUEEN;",
    "2 KNIGHT-ROOK;2 KNIGHT-BISHOP;0 BLACK CHESS KNIGHT-QUEEN;2 KNIGHT-ROOK;2 KNIGHT-BISHOP;",
    "1FA60=0 XIANGQI RED GENERAL;2 MANDARIN;2 ELEPHANT;2 HORSE;2 CHARIOT;2 CANNON;2 SOLDIER;1 ",
    "BLACK GENERAL;2 MANDARIN;2 ELEPHANT;2 HORSE;2 CHARIOT;2 CANNON;2 SOLDIER;1FA70=0 BALLET ",
    "SHOES;0 ONE-PIECE SWIMSUIT;0 BRIEFS;0 SHORTS;0 THONG SANDAL;1FA78=0 DROP OF BLOOD;0 ",
    "ADHESIVE BANDAGE;0 STETHOSCOPE;0 X-RAY;0 CRUTCH;1FA80=0 YO-YO;0 KITE;0 PARACHUTE;0 ",
    "BOOMERANG;0 MAGIC WAND;0 PINATA;0 NESTING DOLLS;1FA90=0 RINGED PLANET;0 CHAIR;0 RAZOR;0 AXE;",
    "0 DIYA LAMP;0 BANJO;0 MILITARY HELMET;0 ACCORDION;0 LONG DRUM;0 COIN;0 CARPENTRY SAW;0 ",
    "SCREWDRIVER;0 LADDER;0 HOOK;0 MIRROR;0 WINDOW;0 PLUNGER;0 SEWING NEEDLE;0 KNOT;0 BUCKET;0 ",
    "MOUSE TRAP;0 TOOTHBRUSH;0 HEADSTONE;0 PLACARD;0 ROCK;0 MIRROR BALL;0 IDENTIFICATION CARD;0 ",
    "LOW BATTERY;0 HAMSA;1FAB0=0 FLY;0 WORM;0 BEETLE;0 COCKROACH;0 POTTED PLANT;0 WOOD;0 FEATHER;",
    "0 LOTUS;0 CORAL;0 EMPTY NEST;0 NEST WITH EGGS;1FAC0=0 ANATOMICAL HEART;0 LUNGS;0 PEOPLE ",
    "HUGGING;0 PREGNANT MAN;1 PERSON;0 PERSON WITH CROWN;1FAD0=0 BLUEBERRIES;0 BELL PEPPER;0 ",
    "OLIVE;0 FLATBREAD;0 TAMALE;0 FONDUE;0 TEAPOT;0 POURING LIQUID;0 BEANS;0 JAR;1FAE0=0 MELTING ",
    "FACE;0 SALUTING FACE;0 FACE WITH OPEN EYES AND HAND OVER MOUTH;2 PEEKING EYE;2 DIAGONAL ",
    "MOUTH;0 DOTTED LINE FACE;0 BITING LIP;0 BUBBLES;1FAF0=0 HAND WITH INDEX FINGER AND THUMB ",
    "CROSSED;0 RIGHTWARDS HAND;0 LEFTWARDS HAND;0 PALM DOWN HAND;1 UP HAND;0 INDEX POINTING AT ",
    "THE VIEWER;0 HEART HANDS;1FB00=0 BLOCK SEXTANT-1;1 SEXTANT-2;1 SEXTANT-12;1 SEXTANT-3;1 ",
    "SEXTANT-13;1 SEXTANT-23;1 SEXTANT-123;1 SEXTANT-4;1 SEXTANT-14;1 SEXTANT-24;1 SEXTANT-124;1 ",
    "SEXTANT-34;1 SEXTANT-134;1 SEXTANT-234;1 SEXTANT-1234;1 SEXTANT-5;1 SEXTANT-15;1 SEXTANT-25;",
    "1 SEXTANT-125;1 SEXTANT-35;1 SEXTANT-235;1 SEXTANT-1235;1 SEXTANT-45;1 SEXTANT-145;1 ",
    "SEXTANT-245;1 SEXTANT-1245;1 SEXTANT-345;1 SEXTANT-1345;1 SEXTANT-2345;1 SEXTANT-12345;1 ",
    "SEXTANT-6;1 SEXTANT-16;1 SEXTANT-26;1 SEXTANT-126;1 SEXTANT-36;1 SEXTANT-136;1 SEXTANT-236;",
    "1 SEXTANT-1236;1 SEXTANT-46;1 SEXTANT-146;1 SEXTANT-1246;1 SEXTANT-346;1 SEXTANT-1346;1 ",
    "SEXTANT-2346;1 SEXTANT-12346;1 SEXTANT-56;1 SEXTANT-156;1 SEXTANT-256;1 SEXTANT-1256;1 ",
    "SEXTANT-356;1 SEXTANT-1356;1 SEXTANT-2356;1 SEXTANT-12356;1 SEXTANT-456;1 SEXTANT-1456;1 ",
    "SEXTANT-2456;1 SEXTANT-12456;1 SEXTANT-3456;1 SEXTANT-13456;1 SEXTANT-23456;0 LOWER LEFT ",
    "BLOCK DIAGONAL LOWER MIDDLE LEFT TO LOWER CENTRE;9 RIGHT;4 UPPER MIDDLE LEFT TO LOWER ",
    "CENTRE;9 RIGHT;5 LEFT TO LOWER CENTRE;1 RIGHT BLOCK DIAGONAL UPPER MIDDLE LEFT TO UPPER ",
    "CENTRE;9 RIGHT;4 LOWER MIDDLE LEFT TO UPPER CENTRE;9 RIGHT;5 LEFT TO UPPER CENTRE;5 MIDDLE ",
    "LEFT TO UPPER MIDDLE RIGHT;5 CENTRE TO LOWER MIDDLE RIGHT;5 LEFT TO LOWER MIDDLE RIGHT;5 ",
    "CENTRE TO UPPER MIDDLE RIGHT;5 LEFT TO UPPER MIDDLE RIGHT;5 CENTRE TO UPPER RIGHT;1 LEFT ",
    "BLOCK DIAGONAL UPPER CENTRE TO UPPER MIDDLE RIGHT;5 LEFT TO UPPER MIDDLE RIGHT;5 CENTRE TO ",
    "LOWER MIDDLE RIGHT;5 LEFT TO LOWER MIDDLE RIGHT;5 CENTRE TO LOWER RIGHT;5 MIDDLE LEFT TO ",
    "LOWER MIDDLE RIGHT;0 UPPER RIGHT BLOCK DIAGONAL LOWER MIDDLE LEFT TO LOWER CENTRE;9 RIGHT;4 ",
    "UPPER MIDDLE LEFT TO LOWER CENTRE;9 RIGHT;5 LEFT TO LOWER CENTRE;1 LEFT BLOCK DIAGONAL ",
    "UPPER MIDDLE LEFT TO UPPER CENTRE;9 RIGHT;4 LOWER MIDDLE LEFT TO UPPER CENTRE;9 RIGHT;5 ",
    "LEFT TO UPPER CENTRE;5 MIDDLE LEFT TO UPPER MIDDLE RIGHT;5 CENTRE TO LOWER MIDDLE RIGHT;5 ",
    "LEFT TO LOWER MIDDLE RIGHT;5 CENTRE TO UPPER MIDDLE RIGHT;5 LEFT TO UPPER MIDDLE RIGHT;5 ",
    "CENTRE TO UPPER RIGHT;1 RIGHT BLOCK DIAGONAL UPPER CENTRE TO UPPER MIDDLE RIGHT;5 LEFT TO ",
    "UPPER MIDDLE RIGHT;5 CENTRE TO LOWER MIDDLE RIGHT;5 LEFT TO LOWER MIDDLE RIGHT;5 CENTRE TO ",
    "LOWER RIGHT;5 MIDDLE LEFT TO LOWER MIDDLE RIGHT;1 AND RIGHT AND LOWER TRIANGULAR THREE ",
    "QUARTERS BLOCK;0 LEFT AND LOWER AND RIGHT TRIANGULAR THREE QUARTERS BLOCK;0 UPPER AND LEFT ",
    "AND LOWER TRIANGULAR THREE QUARTERS BLOCK;0 LEFT AND UPPER AND RIGHT TRIANGULAR THREE ",
    "QUARTERS BLOCK;1 TRIANGULAR ONE QUARTER BLOCK;0 UPPER TRIANGULAR ONE QUARTER BLOCK;0 RIGHT ",
    "TRIANGULAR ONE QUARTER BLOCK;0 LOWER TRIANGULAR ONE QUARTER BLOCK;0 VERTICAL ONE EIGHTH ",
    "BLOCK-2;3 BLOCK-3;3 BLOCK-4;3 BLOCK-5;3 BLOCK-6;3 BLOCK-7;0 HORIZONTAL ONE EIGHTH BLOCK-2;3 ",
    "BLOCK-3;3 BLOCK-4;3 BLOCK-5;3 BLOCK-6;3 BLOCK-7;0 LEFT AND LOWER ONE EIGHTH BLOCK;2 UPPER ",
    "ONE EIGHTH BLOCK;0 RIGHT AND UPPER ONE EIGHTH BLOCK;2 LOWER ONE EIGHTH BLOCK;0 UPPER AND ",
    "LOWER ONE EIGHTH BLOCK;0 HORIZONTAL ONE EIGHTH BLOCK-1358;0 UPPER ONE QUARTER BLOCK;1 THREE ",
    "EIGHTHS BLOCK;1 FIVE EIGHTHS BLOCK;1 THREE QUARTERS BLOCK;1 SEVEN EIGHTHS BLOCK;0 RIGHT ONE ",
    "QUARTER BLOCK;1 THREE EIGHTHS BLOCK;1 FIVE EIGHTHS BLOCK;1 THREE QUARTERS BLOCK;1 SEVEN ",
    "EIGHTHS BLOCK;0 LEFT HALF MEDIUM SHADE;0 RIGHT HALF MEDIUM SHADE;0 UPPER HALF MEDIUM SHADE;",
    "0 LOWER HALF MEDIUM SHADE;0 INVERSE MEDIUM SHADE;0 UPPER HALF BLOCK AND LOWER HALF INVERSE ",
    "MEDIUM SHADE;2 INVERSE MEDIUM SHADE AND LOWER HALF BLOCK;1FB94=0 LEFT HALF INVERSE MEDIUM ",
    "SHADE AND RIGHT HALF BLOCK;0 CHECKER BOARD FILL;0 INVERSE CHECKER BOARD FILL;0 HEAVY ",
    "HORIZONTAL FILL;0 UPPER LEFT TO LOWER RIGHT FILL;1 RIGHT TO LOWER LEFT FILL;1 AND LOWER ",
    "TRIANGULAR HALF BLOCK;0 LEFT AND RIGHT TRIANGULAR HALF BLOCK;0 UPPER LEFT TRIANGULAR MEDIUM ",
    "SHADE;1 RIGHT TRIANGULAR MEDIUM SHADE;0 LOWER RIGHT TRIANGULAR MEDIUM SHADE;1 LEFT ",
    "TRIANGULAR MEDIUM SHADE;0 BOX DRAWINGS LIGHT DIAGONAL UPPER CENTRE TO MIDDLE LEFT;8 RIGHT;4 ",
    "MIDDLE LEFT TO LOWER CENTRE;5 RIGHT TO LOWER CENTRE;4 UPPER CENTRE TO MIDDLE LEFT TO LOWER ",
    "CENTRE;8 RIGHT TO LOWER CENTRE;4 MIDDLE LEFT TO LOWER CENTRE TO MIDDLE RIGHT;7 UPPER CENTRE ",
    "TO MIDDLE RIGHT;4 UPPER CENTRE TO MIDDLE LEFT AND MIDDLE RIGHT TO LOWER CENTRE;8 RIGHT AND ",
    "MIDDLE LEFT TO LOWER CENTRE;9 TO LOWER CENTRE TO MIDDLE LEFT;8 LEFT TO LOWER CENTRE TO ",
    "MIDDLE RIGHT;4 MIDDLE LEFT TO UPPER CENTRE TO MIDDLE RIGHT TO LOWER CENTRE;5 RIGHT TO UPPER ",
    "CENTRE TO MIDDLE LEFT TO LOWER CENTRE;4 DIAMOND;3 HORIZONTAL WITH VERTICAL STROKE;0 ",
    "ARROWHEAD-SHAPED POINTER;0 INVERSE CHECK MARK;0 LEFT HALF RUNNING MAN;0 RIGHT HALF RUNNING ",
    "MAN;0 INVERSE DOWNWARDS ARROW WITH TIP LEFTWARDS;0 LEFTWARDS ARROW AND UPPER AND LOWER ONE ",
    "EIGHTH BLOCK;0 RIGHTWARDS ARROW AND UPPER AND LOWER ONE EIGHTH BLOCK;0 DOWNWARDS ARROW AND ",
    "RIGHT ONE EIGHTH BLOCK;0 UPWARDS ARROW AND RIGHT ONE EIGHTH BLOCK;0 LEFT HALF FOLDER;0 ",
    "RIGHT HALF FOLDER;0 VOIDED GREEK CROSS;0 RIGHT OPEN SQUARED DOT;0 NEGATIVE DIAGONAL CROSS;2 ",
    "MIDDLE RIGHT TO LOWER CENTRE;2 DIAMOND;0 WHITE HEAVY SALTIRE WITH ROUNDED CORNERS;0 LEFT ",
    "THIRD WHITE RIGHT POINTING INDEX;0 MIDDLE THIRD WHITE RIGHT POINTING INDEX;0 RIGHT THIRD ",
    "WHITE RIGHT POINTING INDEX;0 NEGATIVE SQUARED QUESTION MARK;0 STICK FIGURE;2 WITH ARMS ",
    "RAISED;2 LEANING LEFT;3 RIGHT;2 WITH DRESS;0 WHITE UP-POINTING CHEVRON;1FBF0=0 SEGMENTED ",
    "DIGIT ZERO;2 ONE;2 TWO;2 THREE;2 FOUR;2 FIVE;2 SIX;2 SEVEN;2 EIGHT;2 NINE;E0001=0 LANGUAGE ",
    "TAG;E0020=0 TAG SPACE;1 EXCLAMATION MARK;1 QUOTATION MARK;1 NUMBER SIGN;1 DOLLAR SIGN;1 ",
    "PERCENT SIGN;1 AMPERSAND;1 APOSTROPHE;1 LEFT PARENTHESIS;1 RIGHT PARENTHESIS;1 ASTERISK;1 ",
    "PLUS SIGN;1 COMMA;1 HYPHEN-MINUS;1 FULL STOP;1 SOLIDUS;1 DIGIT ZERO;2 ONE;2 TWO;2 THREE;2 ",
    "FOUR;2 FIVE;2 SIX;2 SEVEN;2 EIGHT;2 NINE;1 COLON;1 SEMICOLON;1 LESS-THAN SIGN;1 EQUALS SIGN;",
    "1 GREATER-THAN SIGN;1 QUESTION MARK;1 COMMERCIAL AT;1 LATIN CAPITAL LETTER A;4 B;4 C;4 D;4 ",
    "E;4 F;4 G;4 H;4 I;4 J;4 K;4 L;4 M;4 N;4 O;4 P;4 Q;4 R;4 S;4 T;4 U;4 V;4 W;4 X;4 Y;4 Z;1 ",
    "LEFT SQUARE BRACKET;1 REVERSE SOLIDUS;1 RIGHT SQUARE BRACKET;1 CIRCUMFLEX ACCENT;1 LOW LINE;",
    "1 GRAVE ACCENT;1 LATIN SMALL LETTER A;4 B;4 C;4 D;4 E;4 F;4 G;4 H;4 I;4 J;4 K;4 L;4 M;4 N;4 ",
    "O;4 P;4 Q;4 R;4 S;4 T;4 U;4 V;4 W;4 X;4 Y;4 Z;1 LEFT CURLY BRACKET;1 VERTICAL LINE;1 RIGHT ",
    "CURLY BRACKET;1 TILDE;0 CANCEL TAG;E0100=0 VARIATION SELECTOR-17;1 SELECTOR-18;1 ",
    "SELECTOR-19;1 SELECTOR-20;1 SELECTOR-21;1 SELECTOR-22;1 SELECTOR-23;1 SELECTOR-24;1 ",
    "SELECTOR-25;1 SELECTOR-26;1 SELECTOR-27;1 SELECTOR-28;1 SELECTOR-29;1 SELECTOR-30;1 ",
    "SELECTOR-31;1 SELECTOR-32;1 SELECTOR-33;1 SELECTOR-34;1 SELECTOR-35;1 SELECTOR-36;1 ",
    "SELECTOR-37;1 SELECTOR-38;1 SELECTOR-39;1 SELECTOR-40;1 SELECTOR-41;1 SELECTOR-42;1 ",
    "SELECTOR-43;1 SELECTOR-44;1 SELECTOR-45;1 SELECTOR-46;1 SELECTOR-47;1 SELECTOR-48;1 ",
    "SELECTOR-49;1 SELECTOR-50;1 SELECTOR-51;1 SELECTOR-52;1 SELECTOR-53;1 SELECTOR-54;1 ",
    "SELECTOR-55;1 SELECTOR-56;1 SELECTOR-57;1 SELECTOR-58;1 SELECTOR-59;1 SELECTOR-60;1 ",
    "SELECTOR-61;1 SELECTOR-62;1 SELECTOR-63;1 SELECTOR-64;1 SELECTOR-65;1 SELECTOR-66;1 ",
    "SELECTOR-67;1 SELECTOR-68;1 SELECTOR-69;1 SELECTOR-70;1 SELECTOR-71;1 SELECTOR-72;1 ",
    "SELECTOR-73;1 SELECTOR-74;1 SELECTOR-75;1 SELECTOR-76;1 SELECTOR-77;1 SELECTOR-78;1 ",
    "SELECTOR-79;1 SELECTOR-80;1 SELECTOR-81;1 SELECTOR-82;1 SELECTOR-83;1 SELECTOR-84;1 ",
    "SELECTOR-85;1 SELECTOR-86;1 SELECTOR-87;1 SELECTOR-88;1 SELECTOR-89;1 SELECTOR-90;1 ",
    "SELECTOR-91;1 SELECTOR-92;1 SELECTOR-93;1 SELECTOR-94;1 SELECTOR-95;1 SELECTOR-96;1 ",
    "SELECTOR-97;1 SELECTOR-98;1 SELECTOR-99;1 SELECTOR-100;1 SELECTOR-101;1 SELECTOR-102;1 ",
    "SELECTOR-103;1 SELECTOR-104;1 SELECTOR-105;1 SELECTOR-106;1 SELECTOR-107;1 SELECTOR-108;1 ",
    "SELECTOR-109;1 SELECTOR-110;1 SELECTOR-111;1 SELECTOR-112;1 SELECTOR-113;1 SELECTOR-114;1 ",
    "SELECTOR-115;1 SELECTOR-116;1 SELECTOR-117;1 SELECTOR-118;1 SELECTOR-119;1 SELECTOR-120;1 ",
    "SELECTOR-121;1 SELECTOR-122;1 SELECTOR-123;1 SELECTOR-124;1 SELECTOR-125;1 SELECTOR-126;1 ",
    "SELECTOR-127;1 SELECTOR-128;1 SELECTOR-129;1 SELECTOR-130;1 SELECTOR-131;1 SELECTOR-132;1 ",
    "SELECTOR-133;1 SELECTOR-134;1 SELECTOR-135;1 SELECTOR-136;1 SELECTOR-137;1 SELECTOR-138;1 ",
    "SELECTOR-139;1 SELECTOR-140;1 SELECTOR-141;1 SELECTOR-142;1 SELECTOR-143;1 SELECTOR-144;1 ",
    "SELECTOR-145;1 SELECTOR-146;1 SELECTOR-147;1 SELECTOR-148;1 SELECTOR-149;1 SELECTOR-150;1 ",
    "SELECTOR-151;1 SELECTOR-152;1 SELECTOR-153;1 SELECTOR-154;1 SELECTOR-155;1 SELECTOR-156;1 ",
    "SELECTOR-157;1 SELECTOR-158;1 SELECTOR-159;1 SELECTOR-160;1 SELECTOR-161;1 SELECTOR-162;1 ",
    "SELECTOR-163;1 SELECTOR-164;1 SELECTOR-165;1 SELECTOR-166;1 SELECTOR-167;1 SELECTOR-168;1 ",
    "SELECTOR-169;1 SELECTOR-170;1 SELECTOR-171;1 SELECTOR-172;1 SELECTOR-173;1 SELECTOR-174;1 ",
    "SELECTOR-175;1 SELECTOR-176;1 SELECTOR-177;1 SELECTOR-178;1 SELECTOR-179;1 SELECTOR-180;1 ",
    "SELECTOR-181;1 SELECTOR-182;1 SELECTOR-183;1 SELECTOR-184;1 SELECTOR-185;1 SELECTOR-186;1 ",
    "SELECTOR-187;1 SELECTOR-188;1 SELECTOR-189;1 SELECTOR-190;1 SELECTOR-191;1 SELECTOR-192;1 ",
    "SELECTOR-193;1 SELECTOR-194;1 SELECTOR-195;1 SELECTOR-196;1 SELECTOR-197;1 SELECTOR-198;1 ",
    "SELECTOR-199;1 SELECTOR-200;1 SELECTOR-201;1 SELECTOR-202;1 SELECTOR-203;1 SELECTOR-204;1 ",
    "SELECTOR-205;1 SELECTOR-206;1 SELECTOR-207;1 SELECTOR-208;1 SELECTOR-209;1 SELECTOR-210;1 ",
    "SELECTOR-211;1 SELECTOR-212;1 SELECTOR-213;1 SELECTOR-214;1 SELECTOR-215;1 SELECTOR-216;1 ",
    "SELECTOR-217;1 SELECTOR-218;1 SELECTOR-219;1 SELECTOR-220;1 SELECTOR-221;1 SELECTOR-222;1 ",
    "SELECTOR-223;1 SELECTOR-224;1 SELECTOR-225;1 SELECTOR-226;1 SELECTOR-227;1 SELECTOR-228;1 ",
    "SELECTOR-229;1 SELECTOR-230;1 SELECTOR-231;1 SELECTOR-232;1 SELECTOR-233;1 SELECTOR-234;1 ",
    "SELECTOR-235;1 SELECTOR-236;1 SELECTOR-237;1 SELECTOR-238;1 SELECTOR-239;1 SELECTOR-240;1 ",
    "SELECTOR-241;1 SELECTOR-242;1 SELECTOR-243;1 SELECTOR-244;1 SELECTOR-245;1 SELECTOR-246;1 ",
    "SELECTOR-247;1 SELECTOR-248;1 SELECTOR-249;1 SELECTOR-250;1 SELECTOR-251;1 SELECTOR-252;1 ",
    "SELECTOR-253;1 SELECTOR-254;1 SELECTOR-255;1 SELECTOR-256"]

end BoundSql.Text
